/-
  Requests and responses.

  The address of a connection is that of the last machine on the way.  A proxy names the client in a
  header, which is believed only if it was configured so, because any client can send one.
-/
import Gatehouse.Http.Header
import Gatehouse.Http.Target
import Gatehouse.Json.Value
import Gatehouse.Net.Address
import Gatehouse.Store.Record

namespace Gatehouse.Http

/-- A request. -/
structure Request where
  /-- The method, whose case matters. -/
  method : String
  /-- The path of the target. -/
  path : String
  /-- The header fields. -/
  headers : Headers
  /-- The bytes of the body. -/
  body : List UInt8
  /-- The address of the connection. -/
  peer : Option Address

/-- The request with this method and target, if both are allowed. -/
def Request.create? (method target : String) (headers : Headers) (body : String)
    (peer : Option Address) : Option Request :=
  if method.isEmpty ∨ !method.toList.all isTokenChar then none
  else (Target.parse? target).map fun path => ⟨method, path, headers, Text.utf8 body, peer⟩

/-- The body of a response. -/
inductive Body where
  /-- There is none. -/
  | empty
  /-- A JSON value. -/
  | json (v : Json.Value)
  /-- Plain text. -/
  | text (s : String)

/-- A response. -/
structure Response where
  /-- The status. -/
  status : Nat
  /-- The body. -/
  body : Body := .empty
  /-- The header fields that the server sets. -/
  headers : List (String × String) := []

namespace Response

/-- A response with a JSON body. -/
def json (status : Nat) (v : Json.Value) : Response :=
  ⟨status, .json v, [("content-type", "application/json")]⟩

/-- A response with a text as its body. -/
def text (status : Nat) (s : String) : Response :=
  ⟨status, .text s, [("content-type", "text/plain; charset=utf-8")]⟩

/-- The response with one more header field. -/
def withHeader (r : Response) (name value : String) : Response :=
  { r with headers := r.headers ++ [(name, value)] }

/-- The response without its body. -/
def withoutBody (r : Response) : Response := { r with body := .empty }

end Response

/-! ## Who sent a request -/

/-- The first address that a proxy lists, trimmed. -/
def firstForwarded (value : String) : Option String :=
  trimmed? (String.ofList (value.toList.takeWhile (· ≠ ',')))

/-- The client address that headers name: the first one forwarded, or else the real one. -/
def headerAddress (h : Headers) : Option String :=
  ((h.text? "x-forwarded-for").bind firstForwarded).or ((h.text? "x-real-ip").bind trimmed?)

/-- The client address of a request. -/
def clientAddress (h : Headers) (peer : Option Address) (trustProxy : Bool) : Option String :=
  let peer := peer.map Address.toText
  if trustProxy then (headerAddress h).or peer else peer

/-- The name under which requests without an address are counted. -/
def unknownClient : String := "unknown"

/-- The client of a request. -/
def clientInfo (h : Headers) (peer : Option Address) (trustProxy : Bool) : ClientInfo :=
  ClientInfo.ofRaw (clientAddress h peer trustProxy) (h.text? "user-agent")

end Gatehouse.Http
