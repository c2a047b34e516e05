/-
  A password passes its own hash.

  A hash has the parts that are looked for: no symbol of base64 is a dollar sign, so splitting finds
  the version, the cost and the rest; a salt of sixteen bytes takes twenty-two symbols and the
  digest takes thirty-one.  Decoding gives the salt back, so the digest is made again under the same
  salt.  What the digest is does not matter here, only that it has 23 bytes.

  New hashes are of one version.  Three others are read as well, as `hashOf` makes them.
-/
import Gatehouse.Password
import Gatehouse.Proofs.Encoding

namespace Gatehouse

/-! ## The digest -/

namespace Bcrypt

theorem length_encryptWords (s : Blowfish.Schedule) (words : List UInt32) :
    (encryptWords s words).length = 8 * (words.length / 2) := by
  induction words using encryptWords.induct s with
  | case1 l r rest l' r' _ ih =>
    simp only [encryptWords, List.length_append, ih, Sha256.bytesOfWord, List.length_cons,
      List.length_nil]
    omega
  | case2 words h =>
    -- fewer than two words are left
    cases words with
    | nil => rfl
    | cons w rest =>
      cases rest with
      | nil => simp [encryptWords]
      | cons r rest => exact absurd rfl (h w r rest)

theorem length_digest (cost : Nat) (salt key : List UInt8) :
    (digest cost salt key).length = 23 := by
  have hwords : (Sha256.wordsOfBytes (Text.utf8 plaintext)).length = 6 := by decide +kernel
  simp [digest, length_encryptWords, hwords]

end Bcrypt

/-! ## The parts of a hash -/

theorem Text.splitChars_of_notMem {separator : Char} {l : List Char} (h : separator ∉ l) :
    splitChars separator l = [l] := by
  induction l with
  | nil => rfl
  | cons c l ih =>
    obtain ⟨hc, hl⟩ : separator ≠ c ∧ separator ∉ l := by simpa using h
    simp [splitChars, Ne.symm hc, ih hl]

namespace Password

open Text

/-- The salt and the digest of a hash, in base64. -/
def body (salt : List UInt8) (password : String) : List Char :=
  encode salt ++ encode (digest cost salt password)

/-- A symbol of base64 is an ASCII character and no dollar sign. -/
theorem plain_of_mem_encode {bytes : List UInt8} {c : Char} (h : c ∈ encode bytes) :
    c ≠ '$' ∧ c.toNat < 128 := by
  have hsymbols : (Base64.passwordHash.symbols.all fun c => c ≠ '$' ∧ c.toNat < 128) = true := rfl
  exact of_decide_eq_true (List.all_eq_true.1 hsymbols c (Base64.mem_symbols_of_mem_encode h))

/-- Behind the cost a hash holds no separator and nothing outside ASCII. -/
theorem plain_of_mem_body {salt : List UInt8} {password : String} {c : Char}
    (h : c ∈ body salt password) : c ≠ '$' ∧ c.toNat < 128 :=
  (List.mem_append.1 h).elim plain_of_mem_encode plain_of_mem_encode

theorem length_encode_salt {salt : List UInt8} (hsalt : salt.length = 16) :
    (encode salt).length = 22 := by
  rw [encode, Base64.length_encode, hsalt]

theorem length_encode_digest (salt : List UInt8) (password : String) :
    (encode (digest cost salt password)).length = 31 := by
  rw [encode, Base64.length_encode, digest, Bcrypt.length_digest]

/-- A hash of the version `2` and the letter, of the cost of new hashes. -/
def hashOf (letter : Char) (salt : List UInt8) (password : String) : String :=
  String.ofList (['$', '2', letter, '$', '1', '0', '$'] ++ body salt password)

/-- New hashes are of the version `2b`. -/
theorem hashWith_eq (salt : List UInt8) (password : String) :
    hashWith salt password = hashOf 'b' salt password := by
  have hversion : "$2b$".toList = ['$', '2', 'b', '$'] := by decide +kernel
  have hcost : (toString cost).toList = ['1', '0'] := by decide +kernel
  unfold hashWith hashOf body
  rw [hversion, hcost]
  simp only [List.cons_append, List.nil_append]

variable {salt : List UInt8} {letter : Char}

/-- Between the dollar signs of a hash stand its three parts. -/
theorem parts_hashOf (hsalt : salt.length = 16) (hletter : letter ≠ '$') (password : String) :
    (Text.split '$' (hashOf letter salt password)).filter (· ≠ "") =
      [String.ofList ['2', letter], "10", String.ofList (body salt password)] := by
  have hdollar : '$' ∉ body salt password := fun h => (plain_of_mem_body h).1 rfl
  have hrest : String.ofList (body salt password) ≠ "" := by
    intro h
    have hnil := congrArg (fun s : String => s.toList.length) h
    simp [body, length_encode_salt hsalt] at hnil
  have hchars : splitChars '$' (['$', '2', letter, '$', '1', '0', '$'] ++ body salt password) =
      [[], ['2', letter], ['1', '0'], body salt password] := by
    simp [splitChars, splitChars_of_notMem hdollar, hletter]
  have hcost : String.ofList ['1', '0'] = "10" := by decide +kernel
  rw [Text.split, hashOf, String.toList_ofList, hchars]
  simp [hcost, hrest]

/-- A hash splits back into the cost, the salt and the digest it was written from. -/
theorem split_hashOf (hsalt : salt.length = 16) (hletter : letter ∈ ['a', 'b', 'x', 'y'])
    (password : String) :
    split (hashOf letter salt password) =
      .ok ⟨cost, (encode salt).map Char.toNat,
        (encode (digest cost salt password)).map Char.toNat⟩ := by
  have hcost : readNat maxNat32 "10" = .ok cost := rfl
  have hbytes : utf8 (String.ofList (body salt password)) =
      (body salt password).map fun c => UInt8.ofNat c.toNat := by
    rw [utf8_ofList, utf8Chars_of_lt fun c hc => (plain_of_mem_body hc).2]
  have hcodes : ((body salt password).map fun c => UInt8.ofNat c.toNat).map UInt8.toNat =
      (body salt password).map Char.toNat := by
    rw [List.map_map]
    refine List.map_congr_left fun c hc => ?_
    have := (plain_of_mem_body hc).2
    simp only [Function.comp_apply, UInt8.toNat_ofNat']
    omega
  have hlength : (body salt password).length = 53 := by
    rw [body, List.length_append, length_encode_salt hsalt, length_encode_digest]
  -- no byte is inside a character, as all of them are ASCII
  have hhead : (((body salt password).map fun c => UInt8.ofNat c.toNat).drop 22).head?.any
      isContinuation = false := by
    cases hb : (((body salt password).map fun c => UInt8.ofNat c.toNat).drop 22).head? with
    | none => rfl
    | some b =>
      obtain ⟨c, hc, rfl⟩ := List.mem_map.1 (List.mem_of_mem_drop (List.mem_of_head? hb))
      have hlow : ¬ (0x80 : UInt8) ≤ UInt8.ofNat c.toNat := by
        have := (plain_of_mem_body hc).2
        rw [UInt8.le_iff_toNat_le, UInt8.toNat_ofNat']
        simp
        omega
      simp [isContinuation, hlow]
  have htake : ((body salt password).map Char.toNat).take 22 = (encode salt).map Char.toNat := by
    rw [body, List.map_append, List.take_left' (by rw [List.length_map, length_encode_salt hsalt])]
  have hdrop : ((body salt password).map Char.toNat).drop 22 =
      (encode (digest cost salt password)).map Char.toNat := by
    rw [body, List.map_append, List.drop_left' (by rw [List.length_map, length_encode_salt hsalt])]
  have hversion : ∀ c ∈ ['a', 'b', 'x', 'y'],
      c ≠ '$' ∧ String.ofList ['2', c] ∈ ["2a", "2b", "2x", "2y"] := by simp
  unfold split
  rw [parts_hashOf hsalt (hversion letter hletter).1]
  simp only [(hversion letter hletter).2, if_true, hcost, hbytes, List.length_map, hlength, hhead,
    hcodes, htake, hdrop, Bool.not_false, and_self]

/-! ## Passwords and their hashes -/

/-- **A hash that was made of a password is never an error inside**: whether an attempt passes it is
decided by the digest of the attempt under the same salt. -/
theorem verify_attempt (hsalt : salt.length = 16) (hletter : letter ∈ ['a', 'b', 'x', 'y'])
    (password attempt : String) :
    verify attempt (hashOf letter salt password) =
      .ok (decide (digest cost salt attempt = digest cost salt password)) := by
  have hdecode (bytes : List UInt8) : decode ((encode bytes).map Char.toNat) = .ok bytes := by
    rw [decode, encode, Base64.decode_encode (by decide)]
    rfl
  have ok_bind {α β : Type} (a : α) (f : α → Except HashError β) : (Except.ok a >>= f) = f a := rfl
  have hmatch : matchHash attempt (hashOf letter salt password) =
      .ok (decide (digest cost salt attempt = digest cost salt password)) := by
    unfold matchHash
    rw [split_hashOf hsalt hletter]
    simp only [ok_bind, hdecode]
    rw [if_neg (by decide)]
    rfl
  rw [verify, hmatch]
  rfl

/-- The password a hash was written from verifies, whatever letter the version has. -/
theorem verify_hashOf (hsalt : salt.length = 16) (hletter : letter ∈ ['a', 'b', 'x', 'y'])
    (password : String) : verify password (hashOf letter salt password) = .ok true := by
  rw [verify_attempt hsalt hletter, decide_eq_true rfl]

/-- **A password passes its own hash.** -/
theorem verify_hashWith (hsalt : salt.length = 16) (password : String) :
    verify password (hashWith salt password) = .ok true := by
  rw [hashWith_eq]
  exact verify_hashOf hsalt (by decide) password

/-- Hashes of different versions are different. -/
theorem hashOf_ne {letter' : Char} (h : letter ≠ letter') (salt' : List UInt8)
    (password password' : String) :
    hashOf letter salt password ≠ hashOf letter' salt' password' := by
  intro heq
  have hlist := congrArg String.toList heq
  rw [hashOf, hashOf, String.toList_ofList, String.toList_ofList] at hlist
  simp [h] at hlist

end Password

end Gatehouse
