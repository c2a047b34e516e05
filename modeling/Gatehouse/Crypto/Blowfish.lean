/-
  The Blowfish cipher with its slow key schedule.

  The cipher encrypts two words at a time with eighteen subkeys and four boxes of 256 words.  Before
  a key is mixed in, all of these words are the binary digits of π behind the point, which are
  computed here.  Mixing in a key replaces every word by the result of an encryption, so a key can
  be made as slow to try as one likes.
-/

namespace Gatehouse.Blowfish

/-! ## The digits of π -/

/-- A numerator over odd denominators, with alternating signs: the part of the arctangent series
of `1 / x` from the term with this index on, where `power` is a scale divided by the power of `x`
that belongs to the term. -/
def arctanTerms (x : Nat) : Nat → Nat → Nat → Int
  | 0, _, _ => 0
  | fuel + 1, index, power =>
    if power = 0 then 0
    else (power / (2 * index + 1) : Nat) - arctanTerms x fuel (index + 1) (power / (x * x))

/-- The arctangent of `1 / x`, times `2 ^ bits`. -/
def arctanInverse (x bits : Nat) : Int := arctanTerms x bits 0 ((1 <<< bits) / x)

/-- The first binary digits of π behind the point, from `16 arctan (1/5) - 4 arctan (1/239)`; the
64 digits after them are computed to be thrown away. -/
def piFraction (bits : Nat) : Nat :=
  let scaled := 16 * arctanInverse 5 (bits + 64) - 4 * arctanInverse 239 (bits + 64)
  (scaled.toNat >>> 64) % (1 <<< bits)

/-- The number of words of subkeys and boxes. -/
def wordCount : Nat := 18 + 4 * 256

/-- The words of a number, the most significant first. -/
def wordsOf (count n : Nat) : Array UInt32 :=
  Array.ofFn fun i : Fin count => (n >>> (32 * (count - 1 - i.val))).toUInt32

/-! ## The cipher -/

/-- The subkeys and the boxes. -/
structure Schedule where
  /-- Eighteen subkeys. -/
  subkeys : Array UInt32
  /-- Four boxes, one after the other. -/
  boxes : Array UInt32

/-- The subkeys and the boxes before a key is mixed in. -/
def start : Schedule :=
  let words := wordsOf wordCount (piFraction (32 * wordCount))
  ⟨words.extract 0 18, words.extract 18 wordCount⟩

namespace Schedule

/-- What the boxes make of a word. -/
def mix (s : Schedule) (x : UInt32) : UInt32 :=
  let a := s.boxes.getD (x >>> 24).toNat 0
  let b := s.boxes.getD (256 + (x >>> 16).toUInt8.toNat) 0
  let c := s.boxes.getD (512 + (x >>> 8).toUInt8.toNat) 0
  let d := s.boxes.getD (768 + x.toUInt8.toNat) 0
  ((a + b) ^^^ c) + d

/-- The last rounds of an encryption, as many as the number says. -/
def rounds (s : Schedule) : Nat → UInt32 → UInt32 → UInt32 × UInt32
  | 0, l, r => (r ^^^ s.subkeys.getD 17 0, l ^^^ s.subkeys.getD 16 0)
  | n + 1, l, r =>
    let l := l ^^^ s.subkeys.getD (15 - n) 0
    s.rounds n (r ^^^ s.mix l) l

/-- Encrypts two words. -/
def encrypt (s : Schedule) (l r : UInt32) : UInt32 × UInt32 := s.rounds 16 l r

/-- Puts a key of eighteen words over the subkeys. -/
def overlay (s : Schedule) (key : Array UInt32) : Schedule :=
  { s with subkeys := s.subkeys.mapIdx fun i x => x ^^^ key.getD i 0 }

/-- A schedule that is being replaced, and the two words last written. -/
structure Sweep where
  /-- The schedule. -/
  schedule : Schedule
  /-- The first of the two words. -/
  l : UInt32 := 0
  /-- The second of the two words. -/
  r : UInt32 := 0

/-- Encrypts the next two words, with two words of the salt put over them. -/
def Sweep.step (w : Sweep) (salt : Array UInt32) (pair : Nat) : Sweep :=
  let p := salt.getD (2 * pair % 4) 0
  let q := salt.getD ((2 * pair + 1) % 4) 0
  let (l, r) := w.schedule.encrypt (w.l ^^^ p) (w.r ^^^ q)
  ⟨w.schedule, l, r⟩

/-- Replaces two subkeys. -/
def Sweep.writeSubkeys (w : Sweep) (pair : Nat) : Sweep :=
  match w with
  | ⟨⟨subkeys, boxes⟩, l, r⟩ =>
    ⟨⟨(subkeys.setIfInBounds (2 * pair) l).setIfInBounds (2 * pair + 1) r, boxes⟩, l, r⟩

/-- Replaces two words of the boxes. -/
def Sweep.writeBoxes (w : Sweep) (pair : Nat) : Sweep :=
  match w with
  | ⟨⟨subkeys, boxes⟩, l, r⟩ =>
    ⟨⟨subkeys, (boxes.setIfInBounds (2 * pair) l).setIfInBounds (2 * pair + 1) r⟩, l, r⟩

/-- Mixes in a key of eighteen words and a salt of four. -/
def expand (s : Schedule) (salt key : Array UInt32) : Schedule :=
  let w : Sweep := ⟨s.overlay key, 0, 0⟩
  let w := Nat.fold 9 (fun i _ w => (Sweep.step w salt i).writeSubkeys i) w
  let w := Nat.fold 512 (fun i _ w => (Sweep.step w salt (i + 9)).writeBoxes i) w
  w.schedule

end Schedule

end Gatehouse.Blowfish
