/-
  JSON values of any shape.

  Where it depends on a value what is made of it, the value is read first and looked at afterwards.
  Records keep their entries in order, also those whose key has come before.

  Lists and records may be nested only so deep: `content depth` refuses what is nested deeper than
  `depth - 1`.
-/
import Gatehouse.Json.Reader

namespace Gatehouse.Json

/-- A JSON value of any shape. -/
inductive Content where
  | null
  | bool (b : Bool)
  | number (n : Reader.Number)
  | text (s : String)
  | list (items : List Content)
  | record (entries : List (String × Content))

namespace Content

/-- Tells whether a value is a string. -/
def isText : Content → Bool
  | text _ => true
  | _ => false

/-- Tells whether a value is a list of strings. -/
def isTexts : Content → Bool
  | list items => items.all isText
  | _ => false

/-- Tells whether a value is null. -/
def isNull : Content → Bool
  | null => true
  | _ => false

end Content

namespace Reader

mutual

/-- Reads a value of any shape.  `depth` bounds how far lists and records may be nested. -/
def contentWithin (fuel depth : Nat) : Reader Content :=
  match fuel with
  | 0 => .fail .truncated
  | fuel + 1 => do
    match ← peekToken with
    | none => .fail .truncated
    | some b =>
      if b = 0x22 then do advance; return .text (← stringBody)
      else if b = 0x6e then do advance; letters "ull"; return .null
      else if b = 0x74 then do advance; letters "rue"; return .bool true
      else if b = 0x66 then do advance; letters "alse"; return .bool false
      else if b = 0x2d then do advance; return .number (← numberBody true)
      else if (digit? b).isSome then return .number (← numberBody false)
      else if depth ≤ 1 then .fail .malformed
      else if b = 0x5b then do
        advance
        return .list (← closing (contentItems fuel (depth - 1) true) closeList)
      else if b = 0x7b then do
        advance
        return .record (← closing (contentEntries fuel (depth - 1) true) closeRecord)
      else .fail .malformed

/-- Reads the items of a list up to its end. -/
def contentItems (fuel depth : Nat) (first : Bool) : Reader (List Content) :=
  match fuel with
  | 0 => .fail .truncated
  | fuel + 1 => do
    if ← nextItem first then
      return (← contentWithin fuel depth) :: (← contentItems fuel depth false)
    else return []

/-- Reads the entries of a record up to its end. -/
def contentEntries (fuel depth : Nat) (first : Bool) : Reader (List (String × Content)) :=
  match fuel with
  | 0 => .fail .truncated
  | fuel + 1 => do
    match ← nextKey first with
    | none => return []
    | some key =>
      colon
      return (key, ← contentWithin fuel depth) :: (← contentEntries fuel depth false)

end

/-- Reads a value of any shape.  Every value, item and entry takes bytes, so the fuel is enough. -/
def content (depth : Nat) : Reader Content := do
  contentWithin (2 * (← size) + 2) depth

end Reader

/-- How far values inside a record may be nested. -/
def maxDepth : Nat := 127

end Gatehouse.Json
