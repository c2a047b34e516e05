/-
  The slow digest of passwords.

  A cipher is keyed with the password and a salt, so often that trying a password takes long, and
  then encrypts a fixed text.  The key is read as if it were repeated without end, and no more than
  72 bytes of that are used.
-/
import Gatehouse.Crypto.Blowfish
import Gatehouse.Crypto.Sha256
import Gatehouse.Encoding

namespace Gatehouse.Bcrypt

/-- The first 72 bytes of a key that is repeated without end. -/
def cyclicKey (key : List UInt8) : List UInt8 :=
  (List.range 72).map fun i => key.getD (i % key.length) 0

/-- The words of a list of bytes. -/
def words (bytes : List UInt8) : Array UInt32 := (Sha256.wordsOfBytes bytes).toArray

/-- The text that is encrypted. -/
def plaintext : String := "OrpheanBeholderScryDoubt"

/-- Keys the schedule in turn with the key and with the salt. -/
def rekey (key saltKey : Array UInt32) : Nat → Blowfish.Schedule → Blowfish.Schedule
  | 0, s => s
  | n + 1, s => rekey key saltKey n ((s.expand #[] key).expand #[] saltKey)

/-- Encrypts two words so many times. -/
def encryptTimes (s : Blowfish.Schedule) : Nat → UInt32 × UInt32 → UInt32 × UInt32
  | 0, x => x
  | n + 1, x => encryptTimes s n (s.encrypt x.1 x.2)

/-- Encrypts a list of words, two at a time. -/
def encryptWords (s : Blowfish.Schedule) : List UInt32 → List UInt8
  | l :: r :: rest =>
    let (l, r) := encryptTimes s 64 (l, r)
    Sha256.bytesOfWord l ++ Sha256.bytesOfWord r ++ encryptWords s rest
  | _ => []

/-- The digest of a key under a salt of sixteen bytes: 23 bytes, found in `2 ^ cost` rounds. -/
def digest (cost : Nat) (salt key : List UInt8) : List UInt8 :=
  let key := words (cyclicKey key)
  let schedule := Blowfish.start.expand (words salt) key
  let schedule := rekey key (words (cyclicKey salt)) (1 <<< cost) schedule
  (encryptWords schedule (Sha256.wordsOfBytes (Text.utf8 plaintext))).take 23

end Gatehouse.Bcrypt
