/-
  Records as JSON.

  A shape lists the fields of a record in their order.  In JSON the record is an object with these
  keys in any order, or an array with the values in this order.  Keys that the shape does not list
  are passed over; a listed key that comes twice is refused where it comes again, and a required one
  that does not come is missed at the end of the object.  An array must have all the values.
-/
import Gatehouse.Json.Reader

namespace Gatehouse.Json

/-- One field of a record of type `ρ`: how its value is read, and put into the record. -/
structure Field (ρ : Type) where
  /-- The key. -/
  name : String
  /-- Whether an object must have it. -/
  required : Bool
  /-- Reads the value and gives the update of the record. -/
  read : Reader (ρ → ρ)

/-- The fields of a record of type `ρ` and the record before any of them is known. -/
structure Shape (ρ : Type) where
  /-- The record before reading. -/
  blank : ρ
  /-- The fields in order. -/
  fields : List (Field ρ)

namespace Shape

variable {ρ : Type}

/-- A field that must be there. -/
def field {α : Type} (name : String) (value : Reader α) (put : α → ρ → ρ) : Field ρ :=
  ⟨name, true, put <$> value⟩

/-- A field that may be absent or null. -/
def optionalField {α : Type} (name : String) (value : Reader α) (put : Option α → ρ → ρ) :
    Field ρ :=
  ⟨name, false, put <$> value.option⟩

/-- Reads the entries of an object up to its end.  `seen` holds the listed keys that have come.
Every entry takes bytes, so `fuel` is enough if it exceeds their number. -/
def readEntries (sh : Shape ρ) : Nat → Bool → List String → ρ → Reader ρ
  | 0, _, _, _ => .fail .truncated
  | fuel + 1, first, seen, r => do
    match ← Reader.nextKey first with
    | none =>
      if sh.fields.all fun f => !f.required || seen.contains f.name then return r
      else .fail .unfit
    | some key =>
      match sh.fields.find? fun f => f.name == key with
      | none =>
        Reader.colon
        Reader.skipValue
        sh.readEntries fuel false seen r
      | some f =>
        if seen.contains key then .fail .unfit
        else
          Reader.colon
          let put ← f.read
          sh.readEntries fuel false (key :: seen) (put r)

/-- Reads the values of an array, one for each field. -/
def readItems : List (Field ρ) → Bool → ρ → Reader ρ
  | [], _, r => pure r
  | f :: fields, first, r => do
    if ← Reader.nextItem first then
      let put ← f.read
      readItems fields false (put r)
    else .fail .unfit

/-- Reads a record in either form. -/
def read (sh : Shape ρ) : Reader ρ := do
  match ← Reader.peekToken with
  | none => .fail .truncated
  | some b =>
    if b = 0x7b then do
      Reader.advance
      Reader.closing (sh.readEntries ((← Reader.size) + 1) true [] sh.blank) Reader.closeRecord
    else if b = 0x5b then do
      Reader.advance
      Reader.closing (readItems sh.fields true sh.blank) Reader.closeList
    else Reader.wrongType

/-- Reads a whole text as a record. -/
def decode (sh : Shape ρ) (bytes : List UInt8) : Except Fault ρ := Reader.document sh.read bytes

end Shape

end Gatehouse.Json
