/-
  What secrets and digests look like.

  A digest is sixty-four hexadecimal digits in lower case (`isDigest_digestToken`).  The text of a
  secret spells its bytes: it is made of the symbols that are safe in addresses, four for every
  three bytes and no padding, and the bytes are read back from it (`spells_textOfBytes`).  So texts
  of secrets are different where the bytes are, and no text of sixty-four or of thirty-two bytes is
  as long as a digest.
-/
import Gatehouse.Proofs.Encoding
import Gatehouse.Secret

namespace Gatehouse

/-! ## Digits -/

namespace Hex

/-- The digits in lower case. -/
def digits : List Char := "0123456789abcdef".toList

theorem digit_mem_digits {n : Nat} (h : n < 16) : digit n ∈ digits := by
  have hall : ∀ n : Fin 16, digit n.val ∈ digits := by decide
  exact hall ⟨n, h⟩

theorem length_encode (bytes : List UInt8) : (encode bytes).length = 2 * bytes.length := by
  induction bytes with
  | nil => rfl
  | cons b rest ih =>
    rw [encode, List.flatMap_cons, List.length_append, ← encode, ih, List.length_cons]
    show 2 + 2 * rest.length = _
    omega

theorem mem_digits_of_mem_encode {bytes : List UInt8} {c : Char} (h : c ∈ encode bytes) :
    c ∈ digits := by
  obtain ⟨b, -, hc⟩ := List.mem_flatMap.1 h
  have hb : b.toNat < 256 := b.toNat_lt
  simp only [encodeByte, List.mem_cons, List.not_mem_nil, or_false] at hc
  rcases hc with rfl | rfl
  · exact digit_mem_digits (by omega)
  · exact digit_mem_digits (by omega)

end Hex

/-- The text has the form of a digest: sixty-four hexadecimal digits in lower case. -/
structure IsDigest (text : String) : Prop where
  length : text.length = 64
  digits : ∀ c ∈ text.toList, c ∈ Hex.digits

/-- **What is kept of a token has the form of a digest.** -/
theorem isDigest_digestToken (token : String) : IsDigest (digestToken token) where
  length := by
    rw [digestToken, String.length_ofList, Hex.length_encode, Sha256.length_hash]
  digits c hc := by
    rw [digestToken, String.toList_ofList] at hc
    exact Hex.mem_digits_of_mem_encode hc

/-! ## The texts of secrets -/

/-- The text spells the bytes in the alphabet of tokens. -/
structure Spells (text : String) (bytes : List UInt8) : Prop where
  /-- There are four symbols for every three bytes, and as many as it takes for the rest. -/
  length : text.length = (4 * bytes.length + 2) / 3
  /-- There is nothing but symbols. -/
  symbols : ∀ c ∈ text.toList, c ∈ Base64.urlSafe.symbols
  /-- The bytes are read back. -/
  decodes : Base64.decodeText? text = some bytes

namespace Secret

/-- **The text of a secret spells its bytes.** -/
theorem spells_textOfBytes (bytes : List UInt8) : Spells (textOfBytes bytes) bytes where
  length := by rw [textOfBytes, String.length_ofList, Base64.length_encode]
  symbols c hc := by
    rw [textOfBytes, String.toList_ofList] at hc
    exact Base64.mem_symbols_of_mem_encode hc
  decodes := by
    rw [Base64.decodeText?, textOfBytes, String.toList_ofList, Base64.decode_encode (by decide)]
    rfl

/-- Different bytes have different texts. -/
theorem textOfBytes_injective {bytes bytes' : List UInt8}
    (h : textOfBytes bytes = textOfBytes bytes') : bytes = bytes' := by
  have hdecodes := (spells_textOfBytes bytes).decodes
  rw [h, (spells_textOfBytes bytes').decodes] at hdecodes
  exact (Option.some.inj hdecodes).symm

end Secret

end Gatehouse
