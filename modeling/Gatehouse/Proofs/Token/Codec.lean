/-
  A signed token says what was signed.

  No symbol of base64 is a dot, so the two dots of a token are where signing put them, and the three
  parts are found again.  The signature is the one that the same key makes, the header names the own
  algorithm, and the claims are read field by field (`Json/Record`).  What is left to decide is
  whether the claims name the issuer and are still good.
-/
import Gatehouse.Proofs.Encoding
import Gatehouse.Proofs.Json.Record
import Gatehouse.Token.Codec

namespace Gatehouse

open Json Text

namespace Codec

/-! ## The parts of a token -/

/-- A text is cut at its last dot. -/
theorem splitLastDot_append (front : List Char) {back : List Char} (h : '.' ∉ back) :
    splitLastDot (front ++ '.' :: back) = some (front, back) := by
  have hall : ∀ c ∈ back.reverse, (decide (c ≠ '.')) = true := by
    intro c hc
    exact decide_eq_true fun e => h (e ▸ List.mem_reverse.1 hc)
  have hrev : (front ++ '.' :: back).reverse = back.reverse ++ '.' :: front.reverse := by simp
  have hdrop : (back.reverse ++ '.' :: front.reverse).dropWhile (· ≠ '.') =
      '.' :: front.reverse := by
    rw [List.dropWhile_append_of_pos hall]
    simp
  have htake : (back.reverse ++ '.' :: front.reverse).takeWhile (· ≠ '.') = back.reverse := by
    rw [List.takeWhile_append_of_pos hall]
    simp
  simp only [splitLastDot, hrev, hdrop, htake, List.reverse_reverse]

/-- No part of a token has a dot in it, so that the dots of a token are those between its parts. -/
theorem dot_notMem_encodeBytes (bytes : List UInt8) : '.' ∉ encodeBytes bytes := by
  intro h
  have := Base64.mem_symbols_of_mem_encode h
  revert this
  decide

/-- A part of a token is read as the bytes that it was made of. -/
theorem decodePart?_encodeBytes (bytes : List UInt8) :
    decodePart? (encodeBytes bytes) = some bytes := by
  rw [decodePart?, encodeBytes, Base64.decode_encode (by decide)]
  rfl

/-- The header that we write names the algorithm that we ask for. -/
theorem headerAlgorithm?_ownHeader :
    headerAlgorithm? (encodeJson Token.ownHeader) = some Token.ownAlgorithm := by
  decide +kernel

end Codec

/-! ## The claims of a token -/

namespace Claims

variable {c : Claims}

/-- The entries of claims make the claims out of blank ones. -/
theorem shape_takes (hiat : IsInt64 c.issuedAt) (hexp : IsInt64 c.expiresAt) :
    shape.Takes [] shape.blank
      [("sub", .text c.subject), ("role", .text c.role), ("iss", .text c.issuer),
        ("iat", .int c.issuedAt), ("exp", .int c.expiresAt)]
      ["exp", "iat", "iss", "role", "sub"] c := by
  refine .text rfl (by decide) ?_
  refine .text rfl (by decide) ?_
  refine .text rfl (by decide) ?_
  refine .int64 hiat rfl (by decide) ?_
  refine .int64 hexp rfl (by decide) ?_
  exact .nil _ _

/-- **Printed claims are read as they were.** -/
theorem decode_toJson (hiat : IsInt64 c.issuedAt) (hexp : IsInt64 c.expiresAt) :
    shape.decode (utf8 c.toJson.toText) = .ok c :=
  Shape.decode_print (shape_takes hiat hexp) (by decide)

/-- Claims have no audience, so the second look at them passes over all that is there. -/
theorem audienceShape_takes (c : Claims) :
    Token.audienceShape.Takes [] Token.audienceShape.blank
      [("sub", .text c.subject), ("role", .text c.role), ("iss", .text c.issuer),
        ("iat", .int c.issuedAt), ("exp", .int c.expiresAt)]
      ["exp", "iss", "sub"] false := by
  refine .listed _ _ rfl (by decide)
    (fun rest _ => Reader.map_ok (Reader.skipValue_text _ rest) _) ?_
  refine .unlisted rfl (fun rest _ => Reader.skipValue_text _ rest) ?_
  refine .listed _ _ rfl (by decide)
    (fun rest _ => Reader.map_ok (Reader.skipValue_text _ rest) _) ?_
  refine .unlisted rfl (fun rest h => Reader.skipValue_int _ h) ?_
  refine .listed _ _ rfl (by decide) (fun rest h => Reader.map_ok (Reader.skipValue_int _ h) _) ?_
  exact .nil _ _

/-- A record that is read as one without an audience is for nobody. -/
theorem namesNobody_of_read {bytes : List UInt8}
    (h : Token.audienceShape.read (0x7b :: bytes) = (.ok false, [])) :
    Token.namesNobody (0x7b :: bytes) = true := by
  have hpeek := Reader.peekToken_cons (b := 0x7b) (by decide) bytes
  simp only [Token.namesNobody, Reader.document, bind, hpeek, h]
  rfl

/-- Claims that we write name no audience. -/
theorem namesNobody_toJson (c : Claims) : Token.namesNobody (utf8 c.toJson.toText) = true := by
  have hread := Shape.read_print c.audienceShape_takes (by decide) []
  rw [Shape.utf8Chars_print_record] at hread
  rw [Value.toText, utf8_ofList, toJson, ← List.append_nil (utf8Chars _),
    Shape.utf8Chars_print_record]
  exact namesNobody_of_read hread

end Claims

/-! ## Verifying what was signed -/

section Steps

variable {α β : Type}

theorem bind_of_eq_some {x : Option α} {a : α} (h : x = some a) (f : α → Option β) :
    (x >>= f) = f a := by
  rw [h]
  rfl

theorem guard_bind (p : Prop) [Decidable p] (x : Option α) :
    ((guard p : Option Unit) >>= fun _ => x) = if p then x else none := by
  show ((if p then pure () else failure : Option Unit) >>= fun _ => x) = _
  split <;> rfl

theorem guard_bind_of {p : Prop} [Decidable p] (h : p) (x : Option α) :
    ((guard p : Option Unit) >>= fun _ => x) = x := by
  rw [guard_bind, if_pos h]

end Steps

/-- **A signed token is verified exactly when it is good**: when its claims name the issuer of the
codec and have not expired.  Then the claims are those that were signed. -/
theorem Codec.verify_sign (c : Codec) {claims : Claims} (hiat : IsInt64 claims.issuedAt)
    (hexp : IsInt64 claims.expiresAt) (second : Int) :
    c.verify second (c.sign claims) =
      if claims.issuer = c.issuer ∧ 0 ≤ claims.expiresAt ∧ second ≤ claims.expiresAt then
        some claims
      else none := by
  have hmessage : splitLastDot (c.sign claims).toList = some
      (encodeJson Token.ownHeader ++ '.' :: encodeJson claims.toJson,
        c.signature (encodeJson Token.ownHeader ++ '.' :: encodeJson claims.toJson)) := by
    rw [sign, String.toList_ofList]
    exact splitLastDot_append _ (dot_notMem_encodeBytes _)
  have hpayload : splitLastDot (encodeJson Token.ownHeader ++ '.' :: encodeJson claims.toJson) =
      some (encodeJson Token.ownHeader, encodeJson claims.toJson) :=
    splitLastDot_append _ (dot_notMem_encodeBytes _)
  have hbytes : decodePart? (encodeJson claims.toJson) = some (utf8 claims.toJson.toText) :=
    decodePart?_encodeBytes _
  have hclaims : (Claims.shape.decode (utf8 claims.toJson.toText)).toOption = some claims := by
    rw [Claims.decode_toJson hiat hexp]
    rfl
  -- every check but the last passes, whatever the claims say
  rw [verify]
  refine (bind_of_eq_some hmessage _).trans ?_
  refine (bind_of_eq_some hpayload _).trans ?_
  refine (guard_bind_of headerAlgorithm?_ownHeader _).trans ?_
  refine (guard_bind_of rfl _).trans ?_
  refine (bind_of_eq_some hbytes _).trans ?_
  refine (bind_of_eq_some hclaims _).trans ?_
  refine (guard_bind_of claims.namesNobody_toJson _).trans ?_
  exact guard_bind _ _

/-! ## Claims that are made now -/

namespace Codec

variable {c : Codec} {now : Instant} {userId role : String} {claims : Claims}

/-- **A token is issued exactly if the calendar has a date for its end**, and then it says who the
user is, when it was issued and when it ends. -/
theorem claimsAt?_eq_some_iff :
    c.claimsAt? now userId role = some claims ↔
      Instant.inCalendar (now + c.span) = true ∧
        claims =
          ⟨userId, role, c.issuer, Instant.seconds now, Instant.seconds (now + c.span)⟩ := by
  rw [claimsAt?, Option.map_eq_some_iff]
  constructor
  · rintro ⟨expiry, h, rfl⟩
    obtain ⟨rfl, hin⟩ := Instant.plus?_eq_some_iff.1 h
    exact ⟨hin, rfl⟩
  · rintro ⟨hin, rfl⟩
    exact ⟨_, Instant.plus?_eq_some_iff.2 ⟨rfl, hin⟩, rfl⟩

/-- The times of claims fit into sixty-four bits: one lies in the calendar, and the other is no
further from it than a duration is long. -/
theorem isInt64_of_claimsAt? (hspan : c.span.natAbs ≤ maxDuration)
    (h : c.claimsAt? now userId role = some claims) :
    IsInt64 claims.issuedAt ∧ IsInt64 claims.expiresAt := by
  obtain ⟨hin, rfl⟩ := claimsAt?_eq_some_iff.1 h
  simp only [Instant.inCalendar, Bool.and_eq_true, decide_eq_true_eq] at hin
  -- with the bounds written out both times are a matter of arithmetic
  have hduration : maxDuration = 9223372036854775807 := by decide
  have hmax : maxInt64 = 9223372036854775807 := by decide
  have hstart : calendarStart = -8334601228800 := rfl
  have hend : calendarEnd = 8210266876799 := rfl
  simp only [IsInt64, Instant.seconds_eq_ediv] at hin ⊢
  omega

/-- **A token that is issued now is good until it expires.** -/
theorem verify_issued (hspan : c.span.natAbs ≤ maxDuration)
    (h : c.claimsAt? now userId role = some claims) (second : Int) :
    c.verify second (c.sign claims) =
      if 0 ≤ claims.expiresAt ∧ second ≤ claims.expiresAt then some claims else none := by
  obtain ⟨hiat, hexp⟩ := isInt64_of_claimsAt? hspan h
  have hissuer : claims.issuer = c.issuer := by rw [(claimsAt?_eq_some_iff.1 h).2]
  rw [verify_sign c hiat hexp]
  simp only [hissuer, true_and]

/-- So it is good at once, unless it is made before 1970 or expires before it is made. -/
theorem verify_issued_now (hspan : c.span.natAbs ≤ maxDuration)
    (hpos : (0 : Int) ≤ c.span) (hnow : (0 : Int) ≤ now)
    (h : c.claimsAt? now userId role = some claims) :
    c.verify (Instant.seconds now) (c.sign claims) = some claims := by
  have hexp : claims.expiresAt = Instant.seconds (now + c.span) := by
    rw [(claimsAt?_eq_some_iff.1 h).2]
  have hsecond := Instant.seconds_nonneg hnow
  have huntil : Instant.seconds now ≤ Instant.seconds (now + c.span) :=
    Instant.seconds_mono (Int.le_add_of_nonneg_right hpos)
  rw [verify_issued hspan h, hexp, if_pos ⟨Int.le_trans hsecond huntil, huntil⟩]

end Codec

end Gatehouse
