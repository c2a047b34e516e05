/-
  Keys that a header carries.

  A header may describe a key.  We have a key of our own and make no use of it, but a description
  that is none makes the header one that is none.

  A description is a record.  Some parameters are common to keys of all kinds, and may be absent or
  null.  The others depend on the kind, and all of its kind must be there.  A parameter counts only
  if it comes once; what the description holds beside its parameters is passed over.
-/
import Gatehouse.Json.Content

namespace Gatehouse.Token.WebKey

open Json

/-- The entries of a description. -/
abbrev Entries := List (String × Content)

/-- The values that a key has in a description. -/
def valuesOf (entries : Entries) (key : String) : List Content :=
  (entries.filter fun e => e.1 = key).map (·.2)

/-- Tells whether a value is one of these names: a string, or a record that maps the name to a value
that says nothing. -/
def isName (saysNothing : Content → Bool) (names : List String) : Content → Bool
  | .text s => names.contains s
  | .record [(s, value)] => names.contains s && saysNothing value
  | _ => false

/-- Tells whether a value is null or a record without entries. -/
def isEmpty : Content → Bool
  | .null | .record [] => true
  | _ => false

/-! ## Parameters of keys of all kinds -/

/-- The algorithms that a key may be meant for. -/
def algorithms : List String :=
  ["HS256", "HS384", "HS512", "ES256", "ES384", "RS256", "RS384", "RS512", "PS256", "PS384",
   "PS512", "EdDSA", "RSA1_5", "RSA-OAEP", "RSA-OAEP-256"]

/-- The parameters of keys of all kinds, each with the values that it may have. -/
def common : List (String × (Content → Bool)) :=
  [("use", Content.isText), ("key_ops", Content.isTexts), ("alg", isName isEmpty algorithms),
   ("kid", Content.isText), ("x5u", Content.isText), ("x5c", Content.isTexts),
   ("x5t", Content.isText), ("x5t#S256", Content.isText)]

/-- Tells whether a parameter is absent, null or has a value that it may have. -/
def allows (entries : Entries) (parameter : String × (Content → Bool)) : Bool :=
  match valuesOf entries parameter.1 with
  | [] => true
  | [value] => value.isNull || parameter.2 value
  | _ => false

/-! ## Parameters of one kind -/

/-- The curves that a key may be on. -/
def curves : List String := ["P-256", "P-384", "P-521", "Ed25519"]

/-- A parameter that names one of these. -/
def oneOf (names : List String) : Content → Bool := isName Content.isNull names

/-- The kinds of keys, each with its parameters and the values that they may have. -/
def kinds : List (List (String × (Content → Bool))) :=
  [[("kty", oneOf ["EC"]), ("crv", oneOf curves), ("x", Content.isText), ("y", Content.isText)],
   [("kty", oneOf ["RSA"]), ("n", Content.isText), ("e", Content.isText)],
   [("kty", oneOf ["oct"]), ("k", Content.isText)],
   [("kty", oneOf ["OKP"]), ("crv", oneOf curves), ("x", Content.isText)]]

/-- Tells whether a parameter is there and has a value that it may have. -/
def has (entries : Entries) (parameter : String × (Content → Bool)) : Bool :=
  match valuesOf entries parameter.1 with
  | [value] => parameter.2 value
  | _ => false

/-! ## Descriptions -/

/-- Tells whether a value describes a key. -/
def isDescription : Content → Bool
  | .record entries => common.all (allows entries) && kinds.any fun kind => kind.all (has entries)
  | _ => false

/-- Reads the description of a key. -/
def read : Reader Unit := do
  if isDescription (← Reader.content maxDepth) then pure () else .fail .unfit

end Gatehouse.Token.WebKey
