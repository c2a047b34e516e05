/-
  Request targets.

  A target is a path with an optional query, a whole address, the name of a host, or an asterisk.
  What counts of it is the path: a query or a fragment is cut off, and nothing is decoded.

  A segment of a path may be percent-encoded text, which is decoded where it is used.  A percent
  sign and two hexadecimal digits stand for a byte; any other percent sign stands for itself.
-/
import Gatehouse.Encoding

namespace Gatehouse.Http.Target

/-- Tells whether a byte may stand in a path. -/
def isPathByte (b : UInt8) : Bool :=
  b == 0x21 || b == 0x22 || (0x24 ≤ b && b ≤ 0x3b) || b == 0x3d || (0x40 ≤ b && b ≤ 0x5f) ||
  (0x61 ≤ b && b ≤ 0x7e) || 0x80 ≤ b

/-- Tells whether a byte may stand in a query. -/
def isQueryByte (b : UInt8) : Bool :=
  b == 0x21 || (0x24 ≤ b && b ≤ 0x3b) || b == 0x3d || (0x3f ≤ b && b != 0x7f)

/-- Tells whether a byte may stand in the name of a host and in what goes with it. -/
def isAuthorityByte (b : UInt8) : Bool :=
  let c := Char.ofNat b.toNat
  c.isAlphanum || "!$&'()*+,-.:;=@[]_~%".toList.contains c

/-- Tells whether a byte may stand in a scheme. -/
def isSchemeByte (b : UInt8) : Bool :=
  let c := Char.ofNat b.toNat
  c.isAlphanum || "+-.~".toList.contains c

/-- The path of a target that starts with one, up to a query or a fragment.  An empty path is the
root. -/
def path? (s : List UInt8) : Option (List UInt8) :=
  let path := s.takeWhile fun b => b != 0x3f && b != 0x23
  let rest := s.dropWhile fun b => b != 0x3f && b != 0x23
  let query := match rest with
    | b :: query => if b = 0x3f then query.takeWhile (· != 0x23) else []
    | [] => []
  if path.all isPathByte && query.all isQueryByte then
    some (if path.isEmpty then [0x2f] else path)
  else none

/-- What has been seen of the name of a host. -/
structure Seen where
  /-- The number of colons that may stand before a port. -/
  colons : Nat := 0
  /-- Whether a bracket was opened. -/
  opened : Bool := false
  /-- Whether it was closed. -/
  closed : Bool := false
  /-- Whether there is a percent sign outside of what precedes an at sign. -/
  percent : Bool := false
  /-- Whether the last byte was an at sign. -/
  atEnd : Bool := false

/-- Looks at one more byte of the name of a host. -/
def Seen.step (s : Seen) (b : UInt8) : Option Seen :=
  let s' := { s with atEnd := false }
  if !isAuthorityByte b then none
  else if b = 0x3a then
    if 8 ≤ s.colons then none else some { s' with colons := s.colons + 1 }
  else if b = 0x5b then
    if s.percent || s.opened then none else some { s' with opened := true }
  else if b = 0x5d then
    if !s.opened || s.closed then none
    else some { s' with closed := true, colons := 0, percent := false }
  else if b = 0x40 then some { s' with colons := 0, percent := false, atEnd := true }
  else if b = 0x25 then some { s' with percent := true }
  else some s'

/-- Tells whether the name of a host may end here. -/
def Seen.complete (s : Seen) : Bool :=
  s.opened == s.closed && s.colons ≤ 1 && !s.atEnd && !s.percent

/-- Tells whether bytes are the name of a host, perhaps with a user and a port, perhaps empty. -/
def isAuthority (s : List UInt8) : Bool :=
  match s.foldlM Seen.step {} with
  | some seen => seen.complete
  | none => false

/-- Tells whether a byte ends the name of a host. -/
def endsAuthority (b : UInt8) : Bool := b == 0x2f || b == 0x3f || b == 0x23

/-- What follows the scheme of a target, if it has one.  The outer `none` is a scheme that is too
long. -/
def afterScheme? (s : List UInt8) : Option (Option (List UInt8)) :=
  let scheme := s.takeWhile isSchemeByte
  match s.dropWhile isSchemeByte with
  | 0x3a :: 0x2f :: 0x2f :: rest =>
    if 3 < s.length then (if 64 < scheme.length then none else some (some rest)) else some none
  | _ => some none

/-- The path of a target that does not start with one. -/
def fullPath? (s : List UInt8) : Option (List UInt8) := do
  match ← afterScheme? s with
  | none => if isAuthority s then some [] else none
  | some rest =>
    let authority := rest.takeWhile fun b => !endsAuthority b
    if authority.isEmpty ∨ !isAuthority authority then none
    else path? (rest.dropWhile fun b => !endsAuthority b)

/-- The greatest length of a target in bytes. -/
def maxLength : Nat := 65534

/-- The path of a target, if the target is allowed. -/
def parse? (target : String) : Option String := do
  let s := Text.utf8 target
  if s.isEmpty ∨ maxLength < s.length then none
  let path ←
    if s = [0x2a] then some s
    else if s.head? = some 0x2f then path? s
    else fullPath? s
  Text.ofUtf8? path

end Gatehouse.Http.Target

/-! ## Percent-encoded text -/

namespace Gatehouse.Http

/-- The value of a byte that is a hexadecimal digit. -/
def hexByte? (b : UInt8) : Option Nat := (Hex.value? (Char.ofNat b.toNat)).map (·.val)

/-- The byte that a percent sign and two digits at the front stand for. -/
def encodedByte? : List UInt8 → Option UInt8
  | b :: p :: q :: _ =>
    if b = 0x25 then do return UInt8.ofNat ((← hexByte? p) * 16 + (← hexByte? q)) else none
  | _ => none

/-- The bytes that percent-encoded bytes stand for, after so many bytes that are passed over. -/
def percentDecodeAfter : Nat → List UInt8 → List UInt8
  | _, [] => []
  | n + 1, _ :: rest => percentDecodeAfter n rest
  | 0, b :: rest =>
    match encodedByte? (b :: rest) with
    | some byte => byte :: percentDecodeAfter 2 rest
    | none => b :: percentDecodeAfter 0 rest

/-- The bytes that percent-encoded bytes stand for. -/
def percentDecodeBytes (bytes : List UInt8) : List UInt8 := percentDecodeAfter 0 bytes

/-- The text that percent-encoded text stands for, if its bytes are UTF-8. -/
def percentDecode? (s : String) : Option String :=
  Text.ofUtf8? (percentDecodeBytes (Text.utf8 s))

end Gatehouse.Http
