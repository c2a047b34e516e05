/-
  Registered users.
-/
import Gatehouse.Json.Shape
import Gatehouse.Json.Value
import Gatehouse.Uuid

namespace Gatehouse

/-- A registered user. -/
structure User where
  /-- The identifier. -/
  id : Uuid
  /-- The e-mail address the user logs in with. -/
  email : String
  /-- The name, if one was given. -/
  name : Option String
  /-- What the user may do. -/
  role : String
deriving DecidableEq, Repr

/-- The role that opens the administration. -/
def adminRole : String := "admin"

/-- A user and the hash of the user's password. -/
structure Account where
  /-- The user. -/
  user : User
  /-- The hash of the password. -/
  passwordHash : String
deriving DecidableEq, Repr

namespace User

open Json

/-- A text that may be absent, as JSON. -/
def optionalText : Option String → Value
  | some s => .text s
  | none => .null

/-- The user as JSON. -/
def toJson (u : User) : Value :=
  .record [("id", .text u.id.toText), ("email", .text u.email), ("name", optionalText u.name),
    ("role", .text u.role)]

/-- An identifier in JSON. -/
def readId : Reader Uuid := do
  match Uuid.ofText? (← Reader.text) with
  | some id => return id
  | none => .fail .unfit

/-- The form of a user in JSON. -/
def shape : Shape User where
  blank := ⟨default, "", none, ""⟩
  fields := [
    Shape.field "id" readId fun id u => { u with id },
    Shape.field "email" Reader.text fun email u => { u with email },
    Shape.optionalField "name" Reader.text fun name u => { u with name },
    Shape.field "role" Reader.text fun role u => { u with role }]

end User

end Gatehouse
