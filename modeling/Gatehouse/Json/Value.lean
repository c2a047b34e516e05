/-
  JSON values and their compact text.

  The text has no blanks, keeps the order of the fields, and escapes in a string only what must be
  escaped: the quote, the backslash and the control characters.
-/
import Gatehouse.Encoding

namespace Gatehouse.Json

/-- A JSON value whose numbers are integers. -/
inductive Value where
  | null
  | bool (b : Bool)
  | int (n : Int)
  | text (s : String)
  | list (items : List Value)
  | record (fields : List (String × Value))

/-- One character inside the quotes of a string. -/
def escapeChar (c : Char) : List Char :=
  if c = '"' then ['\\', '"']
  else if c = '\\' then ['\\', '\\']
  else if c = '\n' then ['\\', 'n']
  else if c = '\r' then ['\\', 'r']
  else if c = '\t' then ['\\', 't']
  else if c = '\x08' then ['\\', 'b']
  else if c = '\x0c' then ['\\', 'f']
  else if c.toNat < 32 then
    ['\\', 'u', '0', '0', Hex.digit (c.toNat / 16), Hex.digit (c.toNat % 16)]
  else [c]

/-- A string in quotes. -/
def printText (s : String) : List Char := '"' :: s.toList.flatMap escapeChar ++ ['"']

mutual

/-- The compact text of a value. -/
def Value.print : Value → List Char
  | .null => "null".toList
  | .bool true => "true".toList
  | .bool false => "false".toList
  | .int n => (toString n).toList
  | .text s => printText s
  | .list items => '[' :: printItems items ++ [']']
  | .record fields => '\x7b' :: printFields fields ++ ['\x7d']

/-- The items of a list with commas between them. -/
def printItems : List Value → List Char
  | [] => []
  | [v] => v.print
  | v :: rest => v.print ++ ',' :: printItems rest

/-- The fields of a record with commas between them. -/
def printFields : List (String × Value) → List Char
  | [] => []
  | [(k, v)] => printText k ++ ':' :: v.print
  | (k, v) :: rest => printText k ++ ':' :: v.print ++ ',' :: printFields rest

end

/-! The printer is recursive over three types at once; these are the equations used of it. -/

@[simp] theorem Value.print_int (n : Int) : (Value.int n).print = (toString n).toList := rfl

@[simp] theorem Value.print_text (s : String) : (Value.text s).print = printText s := rfl

@[simp] theorem Value.print_record (fields : List (String × Value)) :
    (Value.record fields).print = '\x7b' :: printFields fields ++ ['\x7d'] := rfl

@[simp] theorem printFields_nil : printFields [] = [] := rfl

@[simp] theorem printFields_singleton (k : String) (v : Value) :
    printFields [(k, v)] = printText k ++ ':' :: v.print := rfl

@[simp] theorem printFields_cons_cons (k : String) (v : Value) (e : String × Value)
    (rest : List (String × Value)) :
    printFields ((k, v) :: e :: rest) =
      printText k ++ ':' :: v.print ++ ',' :: printFields (e :: rest) := rfl

/-- The compact text of a value as a string. -/
def Value.toText (v : Value) : String := String.ofList v.print

end Gatehouse.Json
