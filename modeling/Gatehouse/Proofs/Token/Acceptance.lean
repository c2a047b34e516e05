/-
  Which tokens are good.

  A codec lets a token pass when it vouches for its three parts: the header names the own algorithm,
  the signature is the text of the code that the key gives for the other two, and the payload is an
  object with claims that names the own issuer and no audience.  `Codec.Vouches` says this of parts
  that stand on their own, without the order in which they are looked at.

  The parts of a token are found at its last two dots and nowhere else (`splitLastDot_eq_some_iff`).
  Of all that is checked only one thing depends on the time, whether the last second of the claims
  is over.  So there are tokens that are good up to that second and tokens that are never good
  (`verify_eq_some_iff`).
-/
import Gatehouse.Proofs.Token.Codec
import Mathlib.Data.List.TakeWhile

namespace Gatehouse

open Json Text

/-! ## Three parts and two dots -/

/-- The three texts that a token joins with dots. -/
structure Token.Parts where
  /-- The encoded header. -/
  header : List Char
  /-- The encoded claims. -/
  payload : List Char
  /-- The encoded signature. -/
  signature : List Char

namespace Token.Parts

/-- What is signed. -/
def message (p : Parts) : List Char := p.header ++ '.' :: p.payload

/-- The token of the parts. -/
def text (p : Parts) : String := String.ofList (p.message ++ '.' :: p.signature)

end Token.Parts

namespace Codec

/-- **A text is split at its last dot**: what stands behind has none. -/
theorem splitLastDot_eq_some_iff {l front back : List Char} :
    splitLastDot l = some (front, back) ↔ l = front ++ '.' :: back ∧ '.' ∉ back := by
  constructor
  · intro h
    by_cases hdot : '.' ∈ l.reverse
    · -- the last dot is the first one from behind
      obtain ⟨last, first, hl, hlast⟩ := List.eq_append_cons_of_mem hdot
      have hsplit : l = first.reverse ++ '.' :: last.reverse := by
        simpa using congrArg List.reverse hl
      have hback : '.' ∉ last.reverse := fun hmem => hlast (List.mem_reverse.1 hmem)
      rw [hsplit, splitLastDot_append _ hback] at h
      obtain ⟨rfl, rfl⟩ := Prod.mk.inj (Option.some.inj h)
      exact ⟨hsplit, hback⟩
    · have hnone : l.reverse.dropWhile (· ≠ '.') = [] :=
        List.dropWhile_eq_nil_iff.2 fun c hc => decide_eq_true fun e => hdot (e ▸ hc)
      simp only [splitLastDot, hnone] at h
      cases h
  · rintro ⟨rfl, hback⟩
    exact splitLastDot_append front hback

/-! ## What a codec vouches for -/

/-- `c.Vouches p claims` — the parts are those of a token with the claims that was made with the key
of the codec, names its issuer and is for nobody else. -/
structure Vouches (c : Codec) (p : Token.Parts) (claims : Claims) : Prop where
  /-- The last two dots of the token are those that join the parts. -/
  undotted : '.' ∉ p.payload ∧ '.' ∉ p.signature
  /-- The header names the own algorithm. -/
  algorithm : ∃ bytes, decodePart? p.header = some bytes ∧
    Token.headerShape.decode bytes = .ok "HS256"
  /-- The signature is the one text for the code of the message. -/
  signed : p.signature =
    Base64.encode Base64.urlSafe (Hmac.sha256 (utf8 c.secret) (utf8 (String.ofList p.message)))
  /-- The payload holds the claims, as an object that names no audience. -/
  decoded : ∃ bytes, decodePart? p.payload = some bytes ∧ Claims.shape.decode bytes = .ok claims ∧
    Token.namesNobody bytes = true
  /-- The claims name the own issuer. -/
  issuer : claims.issuer = c.issuer
  /-- A time before 1970 is no end. -/
  expiresAt : 0 ≤ claims.expiresAt

theorem toOption_eq_some_iff {ε α : Type} {x : Except ε α} {a : α} :
    x.toOption = some a ↔ x = .ok a := by
  cases x <;> simp [Except.toOption]

theorem guard_bind_eq_some_iff {p : Prop} [Decidable p] {α : Type} {x : Option α} {a : α} :
    ((guard p : Option Unit) >>= fun _ => x) = some a ↔ p ∧ x = some a := by
  rw [guard_bind, Option.ite_none_right_eq_some]

theorem headerAlgorithm?_eq_some_iff {header : List Char} {name : String} :
    headerAlgorithm? header = some name ↔
      ∃ bytes, decodePart? header = some bytes ∧ Token.headerShape.decode bytes = .ok name := by
  simp only [headerAlgorithm?, Option.bind_eq_bind, Option.bind_eq_some_iff, toOption_eq_some_iff]

/-- Whoever passes all the checks has parts that the codec vouches for. -/
theorem exists_vouches_of_verify {c : Codec} {second : Int} {token : String} {claims : Claims}
    (h : c.verify second token = some claims) :
    (∃ p : Token.Parts, p.text = token ∧ c.Vouches p claims) ∧ second ≤ claims.expiresAt := by
  rw [verify] at h
  obtain ⟨⟨message, signature⟩, htoken, h⟩ := Option.bind_eq_some_iff.1 h
  obtain ⟨⟨header, payload⟩, hmessage, h⟩ := Option.bind_eq_some_iff.1 h
  obtain ⟨halgorithm, h⟩ := guard_bind_eq_some_iff.1 h
  obtain ⟨hsigned, h⟩ := guard_bind_eq_some_iff.1 h
  obtain ⟨bytes, hbytes, h⟩ := Option.bind_eq_some_iff.1 h
  obtain ⟨_, hclaims, h⟩ := Option.bind_eq_some_iff.1 h
  obtain ⟨hnobody, h⟩ := guard_bind_eq_some_iff.1 h
  obtain ⟨⟨hissuer, hpos, hsecond⟩, h⟩ := guard_bind_eq_some_iff.1 h
  obtain rfl := Option.some.inj h
  obtain ⟨htoken, hsignature⟩ := splitLastDot_eq_some_iff.1 htoken
  obtain ⟨rfl, hpayload⟩ := splitLastDot_eq_some_iff.1 hmessage
  have htext : (Token.Parts.mk header payload signature).text = token := by
    rw [Token.Parts.text, Token.Parts.message, ← htoken, String.ofList_toList]
  refine ⟨⟨⟨header, payload, signature⟩, htext, ?_⟩, hsecond⟩
  exact ⟨⟨hpayload, hsignature⟩, headerAlgorithm?_eq_some_iff.1 halgorithm, hsigned,
    ⟨bytes, hbytes, toOption_eq_some_iff.1 hclaims, hnobody⟩, hissuer, hpos⟩

/-- Parts that the codec vouches for pass all the checks until the last second of the claims. -/
theorem Vouches.verify_eq_some {c : Codec} {p : Token.Parts} {claims : Claims}
    (h : c.Vouches p claims) {second : Int} (hsecond : second ≤ claims.expiresAt) :
    c.verify second p.text = some claims := by
  obtain ⟨bytes, hbytes, hclaims, hnobody⟩ := h.decoded
  have htoken : splitLastDot p.text.toList = some (p.message, p.signature) :=
    splitLastDot_eq_some_iff.2 ⟨String.toList_ofList, h.undotted.2⟩
  have hmessage : splitLastDot p.message = some (p.header, p.payload) :=
    splitLastDot_eq_some_iff.2 ⟨rfl, h.undotted.1⟩
  rw [verify]
  refine Option.bind_eq_some_iff.2 ⟨_, htoken, ?_⟩
  refine Option.bind_eq_some_iff.2 ⟨_, hmessage, ?_⟩
  refine guard_bind_eq_some_iff.2 ⟨headerAlgorithm?_eq_some_iff.2 h.algorithm, ?_⟩
  refine guard_bind_eq_some_iff.2 ⟨h.signed, ?_⟩
  refine Option.bind_eq_some_iff.2 ⟨_, hbytes, ?_⟩
  refine Option.bind_eq_some_iff.2 ⟨_, toOption_eq_some_iff.2 hclaims, ?_⟩
  refine guard_bind_eq_some_iff.2 ⟨hnobody, ?_⟩
  exact guard_bind_eq_some_iff.2 ⟨⟨h.issuer, h.expiresAt, hsecond⟩, rfl⟩

/-- **A token is good at a second exactly when the codec vouches for its parts** and the second is
not beyond the last one of the claims. -/
theorem verify_eq_some_iff {c : Codec} {second : Int} {token : String} {claims : Claims} :
    c.verify second token = some claims ↔
      (∃ p : Token.Parts, p.text = token ∧ c.Vouches p claims) ∧ second ≤ claims.expiresAt := by
  constructor
  · exact exists_vouches_of_verify
  · rintro ⟨⟨p, rfl, h⟩, hsecond⟩
    exact h.verify_eq_some hsecond

/-- So the claims of such a token are all that is ever read from it. -/
theorem Vouches.verify {c : Codec} {p : Token.Parts} {claims : Claims} (h : c.Vouches p claims)
    (second : Int) :
    c.verify second p.text = if second ≤ claims.expiresAt then some claims else none := by
  split
  · next hsecond => exact h.verify_eq_some hsecond
  · next hover =>
    refine Option.eq_none_iff_forall_ne_some.2 fun other hother => hover ?_
    obtain ⟨⟨q, hq, hvouches⟩, hsecond⟩ := verify_eq_some_iff.1 hother
    -- other claims would be read in 1970 too, when these are
    have hthen : c.verify 0 p.text = some claims := h.verify_eq_some h.expiresAt
    have hthen' : c.verify 0 p.text = some other :=
      verify_eq_some_iff.2 ⟨⟨q, hq, hvouches⟩, hvouches.expiresAt⟩
    obtain rfl : claims = other := Option.some.inj (hthen.symm.trans hthen')
    exact hsecond

/-- What passes depends on the key and the issuer of the codec, not on how long its tokens are
good. -/
theorem verify_congr {c d : Codec} (hsecret : c.secret = d.secret) (hissuer : c.issuer = d.issuer) :
    c.verify = d.verify := by
  cases c
  cases d
  cases hsecret
  cases hissuer
  rfl

end Codec

end Gatehouse
