/-
  Tokens for somebody else.

  A token may name the audience it is meant for, one name or a list of names.  We are no audience,
  so such a token is not for us.  An audience of any other form is as good as none; it is read as
  far as it goes, and reading of the claims goes on behind the place where it stopped.  The time
  before which a token is not to be used is passed over in the same way.
-/
import Gatehouse.Json.Content
import Gatehouse.Json.Shape

namespace Gatehouse.Token

open Json

/-- Reads an audience; tells whether it names somebody. -/
def readAudience : Reader Bool := do
  let audience ← Reader.attempt (Reader.content maxDepth)
  return audience.any fun c => c.isText || c.isTexts

/-- Reads a value that ought to be a number.  Of a list or a record only an empty one is passed
over; any other is left standing. -/
def readTime : Reader Unit := do
  match ← Reader.peekToken with
  | none => pure ()
  | some b =>
    if b = 0x5b then do
      Reader.advance
      let _ ← Reader.attempt Reader.closeList
    else if b = 0x7b then do
      Reader.advance
      let _ ← Reader.attempt Reader.closeRecord
    else do
      let _ ← Reader.attempt (Reader.contentWithin 1 maxDepth)

/-- The registered claims that are looked at a second time: whether the token is for somebody. -/
def audienceShape : Shape Bool where
  blank := false
  fields := [
    ⟨"exp", false, (fun _ => id) <$> Reader.skipValue⟩,
    ⟨"nbf", false, (fun _ => id) <$> readTime⟩,
    ⟨"sub", false, (fun _ => id) <$> Reader.skipValue⟩,
    ⟨"iss", false, (fun _ => id) <$> Reader.skipValue⟩,
    ⟨"aud", false, (fun named _ => named) <$> readAudience⟩]

/-- Tells whether claims are an object that names no audience. -/
def namesNobody (payload : List UInt8) : Bool :=
  let object : Reader Bool := do
    match ← Reader.peekToken with
    | some 0x7b => audienceShape.read
    | _ => .fail .unfit
  match Reader.document object payload with
  | .ok named => !named
  | .error _ => false

end Gatehouse.Token
