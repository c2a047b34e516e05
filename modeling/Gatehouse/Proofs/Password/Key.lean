/-
  Which passwords pass a hash.

  The slow digest sees of a password the first 72 bytes of its bytes and a zero, repeated without
  end (`repeated`).  So an attempt passes the hash of a password exactly when the two are alike as
  far as that goes, or when the digest maps two different keys to one (`Collide`).  No digest of 23
  bytes can tell all keys apart, so nothing is asked of it in general: `Collide` speaks of the two
  keys at hand.

  Different passwords can be alike.  The zero marks the end of a password, so two passwords without
  a zero of their own that are alike are the same, unless neither end is reached within 72 bytes
  (`alike_iff`).  The check of a new password looks at neither, since it only asks for a least
  length.
-/
import Gatehouse.Proofs.Password

namespace Gatehouse

/-! ## Keys -/

/-- The digest of a key depends on its first 72 bytes when it is repeated. -/
theorem Bcrypt.digest_congr {cost : Nat} {salt key key' : List UInt8}
    (h : cyclicKey key = cyclicKey key') : digest cost salt key = digest cost salt key' := by
  unfold digest
  rw [h]

namespace Password

open Text

/-- The byte at a place of a password that is followed by a zero and repeated without end. -/
def repeated (password : String) (i : Nat) : UInt8 :=
  (utf8 password ++ [0]).getD (i % ((utf8 password).length + 1)) 0

/-- `Alike p q` — repeated so, the two passwords have the same first 72 bytes. -/
def Alike (p q : String) : Prop := ∀ i < 72, repeated p i = repeated q i

instance (p q : String) : Decidable (Alike p q) :=
  inferInstanceAs (Decidable (∀ i < 72, repeated p i = repeated q i))

theorem getD_key (password : String) {i : Nat} (hi : i < 72) :
    (key password).getD (i % (key password).length) 0 = repeated password i := by
  have hlength : (key password).length = min 72 ((utf8 password).length + 1) := by
    simp [key]
  rcases Nat.lt_or_ge 72 ((utf8 password).length + 1) with hlong | hshort
  · -- the key is cut, and neither it nor the password ends within 72 bytes
    have hkey : i % (key password).length = i := Nat.mod_eq_of_lt (by omega)
    have hpassword : i % ((utf8 password).length + 1) = i := Nat.mod_eq_of_lt (by omega)
    rw [hkey, repeated, hpassword, key, List.getD_eq_getElem?_getD, List.getElem?_take_of_lt hi,
      List.getD_eq_getElem?_getD]
  · have hkey : key password = utf8 password ++ [0] :=
      List.take_of_length_le (by simpa using hshort)
    have hmin : min 72 ((utf8 password).length + 1) = (utf8 password).length + 1 := by omega
    rw [hlength, hmin, hkey, repeated]

/-- Two passwords are alike exactly when the slow digest is given the same bytes. -/
theorem cyclicKey_key_eq_iff {p q : String} :
    Bcrypt.cyclicKey (key p) = Bcrypt.cyclicKey (key q) ↔ Alike p q := by
  rw [Bcrypt.cyclicKey, Bcrypt.cyclicKey, List.map_inj_left]
  constructor
  · intro h i hi
    have hbyte := h i (List.mem_range.2 hi)
    rwa [getD_key p hi, getD_key q hi] at hbyte
  · intro h i hi
    have hi : i < 72 := List.mem_range.1 hi
    rw [getD_key p hi, getD_key q hi]
    exact h i hi

/-- `Collide salt k k'` — the slow digest does not tell two different keys apart. -/
def Collide (salt k k' : List UInt8) : Prop :=
  Bcrypt.cyclicKey k ≠ Bcrypt.cyclicKey k' ∧ Bcrypt.digest cost salt k = Bcrypt.digest cost salt k'

/-- Passwords that are alike give keys that are not different. -/
theorem Alike.not_collide {p q : String} (h : Alike p q) (salt : List UInt8) :
    ¬ Collide salt (key p) (key q) :=
  fun hcollide => hcollide.1 (cyclicKey_key_eq_iff.2 h)

theorem digest_eq_iff {salt : List UInt8} {p q : String} :
    digest cost salt p = digest cost salt q ↔ Alike p q ∨ Collide salt (key p) (key q) := by
  rw [← cyclicKey_key_eq_iff]
  constructor
  · intro h
    by_cases hkey : Bcrypt.cyclicKey (key p) = Bcrypt.cyclicKey (key q)
    · exact Or.inl hkey
    · exact Or.inr ⟨hkey, h⟩
  · rintro (hkey | ⟨-, h⟩)
    · exact Bcrypt.digest_congr hkey
    · exact h

/-! ## Passwords without a zero -/

/-- A byte of a text is zero only where the text has the character with that code. -/
theorem zero_notMem_utf8 {s : String} (h : '\x00' ∉ s.toList) : (0 : UInt8) ∉ utf8 s := by
  rw [utf8_eq, utf8Chars, List.mem_flatMap]
  rintro ⟨c, hc, hzero⟩
  rcases Nat.lt_or_ge c.toNat 128 with hlow | hhigh
  · rw [utf8EncodeChar_of_lt hlow, List.mem_singleton] at hzero
    have hcode : c.toNat = 0 := by
      have := congrArg UInt8.toNat hzero
      rw [UInt8.toNat_ofNat'] at this
      simp only [UInt8.toNat_zero] at this
      omega
    have hnul : c = '\x00' := Char.toNat_inj.1 hcode
    exact h (hnul ▸ hc)
  · exact absurd (le_of_mem_utf8EncodeChar hhigh hzero) (by decide)

theorem utf8_inj {p q : String} (h : utf8 p = utf8 q) : p = q := by
  have hread := ofUtf8?_utf8 p
  rw [h, ofUtf8?_utf8] at hread
  exact (Option.some.inj hread).symm

theorem repeated_of_lt {password : String} {i : Nat} (h : i < (utf8 password).length) :
    repeated password i = (utf8 password)[i] := by
  have hmod : i % ((utf8 password).length + 1) = i := Nat.mod_eq_of_lt (by omega)
  rw [repeated, hmod, List.getD_eq_getElem?_getD, List.getElem?_append_left h,
    List.getElem?_eq_getElem h, Option.getD_some]

/-- The first zero comes where the password ends. -/
theorem repeated_length (password : String) :
    repeated password (utf8 password).length = 0 := by
  have hmod : (utf8 password).length % ((utf8 password).length + 1) = (utf8 password).length :=
    Nat.mod_eq_of_lt (by omega)
  rw [repeated, hmod]
  simp

theorem repeated_ne_zero {password : String} (hzero : '\x00' ∉ password.toList) {i : Nat}
    (h : i < (utf8 password).length) : repeated password i ≠ 0 := by
  rw [repeated_of_lt h]
  intro hi
  exact zero_notMem_utf8 hzero (hi ▸ List.getElem_mem h)

variable {p q : String}

theorem Alike.symm (h : Alike p q) : Alike q p := fun i hi => (h i hi).symm

/-- Where one password ends within 72 bytes, one that is like it ends too. -/
theorem Alike.length_le (h : Alike p q) (hq : '\x00' ∉ q.toList) (hend : (utf8 p).length < 72) :
    (utf8 q).length ≤ (utf8 p).length := by
  refine Nat.le_of_not_lt fun hlonger => repeated_ne_zero hq hlonger ?_
  rw [← h _ hend, repeated_length]

theorem Alike.getElem_eq (h : Alike p q) {i : Nat} (hi : i < 72) (hp : i < (utf8 p).length)
    (hq : i < (utf8 q).length) : (utf8 p)[i] = (utf8 q)[i] := by
  rw [← repeated_of_lt hp, ← repeated_of_lt hq]
  exact h i hi

/-- Two long passwords are alike when they begin alike. -/
theorem alike_of_take_eq (hp : 72 ≤ (utf8 p).length) (hq : 72 ≤ (utf8 q).length)
    (h : (utf8 p).take 72 = (utf8 q).take 72) : Alike p q := by
  intro i hi
  have hip : i < (utf8 p).length := by omega
  have hiq : i < (utf8 q).length := by omega
  have hget := congrArg (fun bytes : List UInt8 => bytes[i]?) h
  simp only [List.getElem?_take_of_lt hi] at hget
  rw [List.getElem?_eq_getElem hip, List.getElem?_eq_getElem hiq] at hget
  rw [repeated_of_lt hip, repeated_of_lt hiq]
  exact Option.some.inj hget

/-- **Two passwords without zeros are alike exactly when they are the same, or when both have 72
bytes and these are the same.** -/
theorem alike_iff (hp : '\x00' ∉ p.toList) (hq : '\x00' ∉ q.toList) :
    Alike p q ↔ p = q ∨ (72 ≤ (utf8 p).length ∧ 72 ≤ (utf8 q).length ∧
      (utf8 p).take 72 = (utf8 q).take 72) := by
  constructor
  · intro h
    rcases Nat.lt_or_ge (utf8 p).length 72 with hshort | hlong
    · -- both end at the same place, and hold the same bytes up to there
      have hle := h.length_le hq hshort
      have hge := h.symm.length_le hp (by omega)
      refine Or.inl (utf8_inj (List.ext_getElem (by omega) fun i hip hiq => ?_))
      exact h.getElem_eq (by omega) hip hiq
    · have hlong' : 72 ≤ (utf8 q).length := by
        refine Nat.le_of_not_lt fun hlt => ?_
        have hle := h.symm.length_le hp hlt
        omega
      refine Or.inr ⟨hlong, hlong', List.ext_getElem (by simp; omega) fun i hi _ => ?_⟩
      rw [List.length_take] at hi
      rw [List.getElem_take, List.getElem_take]
      exact h.getElem_eq (by omega) (by omega) (by omega)
  · rintro (rfl | ⟨hlongp, hlongq, htake⟩)
    · exact fun i _ => rfl
    · exact alike_of_take_eq hlongp hlongq htake

/-! ## Attempts -/

/-- An attempt that is like a password passes every hash of it. -/
theorem verify_of_alike {p q : String} (h : Alike p q) (salt : Vector UInt8 16) :
    verify q (hashWith salt.toList p) = .ok true := by
  have hdigest : digest cost salt.toList p = digest cost salt.toList q :=
    digest_eq_iff.2 (Or.inl h)
  rw [hashWith_eq, verify_attempt (by simp) (by decide), hdigest, decide_eq_true rfl]

/-- **An attempt passes the hash of a password exactly when it is like the password**, unless the
digest maps the two keys to one; in every other case the answer is no, and never an error.  Two
passwords without zeros that are different are alike when both have 72 bytes and the first 72 are
the same, and in no other case. -/
theorem only_alike_passes (salt : Vector UInt8 16) (p q : String) :
    (verify q (hashWith salt.toList p) = .ok true ↔
      Alike p q ∨ Collide salt.toList (key p) (key q)) ∧
    (verify q (hashWith salt.toList p) = .ok false ↔
      ¬ (Alike p q ∨ Collide salt.toList (key p) (key q))) ∧
    ('\x00' ∉ p.toList → '\x00' ∉ q.toList →
      (Alike p q ↔ p = q ∨ (72 ≤ (utf8 p).length ∧ 72 ≤ (utf8 q).length ∧
        (utf8 p).take 72 = (utf8 q).take 72))) := by
  rw [← digest_eq_iff, hashWith_eq, verify_attempt (by simp) (by decide)]
  refine ⟨?_, ?_, alike_iff⟩
  · rw [Except.ok.injEq, decide_eq_true_iff, eq_comm]
  · rw [Except.ok.injEq, decide_eq_false_iff_not, eq_comm]

/-- Seventy-two letters and one more. -/
def long (last : Char) : String := String.ofList (List.replicate 72 'a' ++ [last])

/-- A password that is longer than 72 bytes, with another last character; and a password that is
written twice with a zero between.  Each is accepted as a new password, and each passes the hash of
a different one, with no two different keys that the digest maps to one. -/
theorem others_pass :
    (checkNew (long 'b') (long 'b') = .ok () ∧ checkNew (long 'c') (long 'c') = .ok () ∧
      long 'b' ≠ long 'c' ∧
      ∀ salt : Vector UInt8 16, ¬ Collide salt.toList (key (long 'b')) (key (long 'c')) ∧
        verify (long 'c') (hashWith salt.toList (long 'b')) = .ok true) ∧
    (checkNew "password" "password" = .ok () ∧
      checkNew "password\x00password" "password\x00password" = .ok () ∧
      ∀ salt : Vector UInt8 16,
        ¬ Collide salt.toList (key "password") (key "password\x00password") ∧
        verify "password\x00password" (hashWith salt.toList "password") = .ok true) := by
  have hlong : Alike (long 'b') (long 'c') := by decide +kernel
  have htwice : Alike "password" "password\x00password" := by decide +kernel
  refine ⟨⟨rfl, rfl, by decide, fun salt => ⟨?_, ?_⟩⟩, ⟨rfl, rfl, fun salt => ⟨?_, ?_⟩⟩⟩
  · exact hlong.not_collide salt.toList
  · exact verify_of_alike hlong salt
  · exact htwice.not_collide salt.toList
  · exact verify_of_alike htwice salt

end Password
end Gatehouse
