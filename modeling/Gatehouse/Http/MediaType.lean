/-
  Media types.

  A media type is a type and a subtype, followed by parameters.  Ours are those of JSON: the subtype
  `json` and any subtype with the suffix `+json`, both under `application`.
-/
import Gatehouse.Http.Header

namespace Gatehouse.Http.MediaType

/-- Tells whether a character may stand in a quoted value. -/
def isQuotedChar (c : Char) : Bool := 31 < c.toNat && c.toNat != 127

/-- Reads the parameters after a semicolon; tells whether they are well formed.  Every step takes a
character, so `fuel` is enough if it exceeds their number. -/
def parameters : Nat → List Char → Bool
  | 0, _ => true
  | _, [] => true
  | fuel + 1, ' ' :: rest => parameters fuel rest
  | fuel + 1, l =>
    let name := l.takeWhile isTokenChar
    match l.dropWhile isTokenChar with
    | '=' :: '"' :: value => !name.isEmpty && quotedValue fuel value
    | '=' :: value => !name.isEmpty && plainValue fuel value
    | _ => false
where
  /-- Reads a value without quotes, and the parameters after it. -/
  plainValue (fuel : Nat) (l : List Char) : Bool :=
    match l.dropWhile isTokenChar with
    | [] => true
    | ';' :: rest => !(l.takeWhile isTokenChar).isEmpty && parameters fuel rest
    | _ => false
  /-- Reads a value after its opening quote, and the parameters after it.  A quote at its very
  beginning belongs to the value. -/
  quotedValue (fuel : Nat) (l : List Char) : Bool :=
    match l with
    | [] => false
    | c :: rest =>
      if isQuotedChar c then
        match rest.dropWhile fun c => isQuotedChar c && c != '"' with
        | '"' :: rest =>
          match rest.dropWhile (· = ' ') with
          | [] => true
          | ';' :: rest => parameters fuel rest
          | _ => false
        | _ => false
      else false

/-- The type and the subtype of a media type, in lower case, if it is well formed. -/
def parse? (s : String) : Option (List Char × List Char) :=
  let l := s.toList.map Char.toLower
  let main := l.takeWhile isTokenChar
  match l.dropWhile isTokenChar with
  | '/' :: rest =>
    let sub := rest.takeWhile isTokenChar
    if main.isEmpty then none
    else
      match rest.dropWhile isTokenChar with
      | [] => some (main, sub)
      | ';' :: rest =>
        if !sub.isEmpty && parameters (rest.length + 1) rest then some (main, sub) else none
      | _ => none
  | _ => none

/-- Splits a subtype at its last plus sign, one at the beginning not counted. -/
def splitSuffix (sub : List Char) : List Char × Option (List Char) :=
  let back := sub.reverse
  match back.dropWhile (· ≠ '+') with
  | _ :: front@(_ :: _) => (front.reverse, some (back.takeWhile (· ≠ '+')).reverse)
  | _ => (sub, none)

/-- Tells whether a media type is one of JSON. -/
def isJson (s : String) : Bool :=
  match parse? s with
  | some (main, sub) =>
    let (name, suffix) := splitSuffix sub
    main = "application".toList && (name = "json".toList || suffix = some "json".toList)
  | none => false

end Gatehouse.Http.MediaType
