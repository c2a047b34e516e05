/-
  The header of an access token.

  A header names the algorithm of the signature.  The other parameters that the token format
  registers must have the right type if they are there, and say nothing to us.
-/
import Gatehouse.Json.Shape
import Gatehouse.Json.Value
import Gatehouse.Token.WebKey

namespace Gatehouse.Token

open Json

/-- The names of signature algorithms that a header may state. -/
def algorithms : List String :=
  ["HS256", "HS384", "HS512", "ES256", "ES384", "RS256", "RS384", "RS512", "PS256", "PS384",
   "PS512", "EdDSA"]

/-- The one algorithm that access tokens are signed with. -/
def ownAlgorithm : String := "HS256"

/-- The header of the tokens that are issued. -/
def ownHeader : Value := .record [("typ", .text "JWT"), ("alg", .text ownAlgorithm)]

/-- The name of an algorithm: a string, or an object that maps the name to null. -/
def readAlgorithm : Reader String := do
  match ← Reader.peekToken with
  | none => .fail .truncated
  | some b =>
    if b = 0x22 then registered (← Reader.text)
    else if b = 0x7b then do
      Reader.advance
      let name ← registered (← Reader.text)
      Reader.colon
      match ← Reader.option Reader.wrongType with
      | none =>
        Reader.closeRecord
        return name
      | some name => return name
    else .fail .malformed
where
  /-- Refuses a name that is not registered. -/
  registered (name : String) : Reader String :=
    if algorithms.contains name then pure name else .fail .unfit

/-- The items of a list of strings. -/
def readTexts : Nat → Bool → Reader Unit
  | 0, _ => .fail .truncated
  | fuel + 1, first => do
    if ← Reader.nextItem first then
      let _ ← Reader.text
      readTexts fuel false

/-- A list of strings. -/
def readTextList : Reader Unit := do
  match ← Reader.peekToken with
  | some 0x5b => do
    Reader.advance
    Reader.closing (readTexts ((← Reader.size) + 1) true) Reader.closeList
  | _ => Reader.wrongType

/-- A parameter of the header that says nothing to us. -/
def ignored {α : Type} (name : String) (value : Reader α) : Json.Field String :=
  Shape.optionalField name value fun _ header => header

/-- The form of a header: what is kept of it is the algorithm. -/
def headerShape : Shape String where
  blank := ""
  fields := [
    ignored "typ" Reader.text,
    Shape.field "alg" readAlgorithm fun name _ => name,
    ignored "cty" Reader.text,
    ignored "jku" Reader.text,
    ignored "jwk" WebKey.read,
    ignored "kid" Reader.text,
    ignored "x5u" Reader.text,
    ignored "x5c" readTextList,
    ignored "x5t" Reader.text,
    ignored "x5t#S256" Reader.text]

end Gatehouse.Token
