/-
  A printed record is read entry by entry.

  A shape reads a record with any entries, in any order: an entry whose key it lists updates the
  record, any other is passed over.  `Shape.Takes` says what it makes of a list of entries, one
  entry at a time and without any bytes, and `decode_print` says that this is what it makes of their
  printed text.  So what a record is read as is found by looking at its entries alone.
-/
import Gatehouse.Json.Shape
import Gatehouse.Proofs.Json.Number
import Gatehouse.Proofs.Json.Text

namespace Gatehouse.Json

open Text

namespace Reader

/-! ## Strings -/

theorem utf8Chars_printText (s : String) (rest : List UInt8) :
    utf8Chars (printText s) ++ rest =
      0x22 :: (utf8Chars (s.toList.flatMap escapeChar) ++ 0x22 :: rest) := by
  have hquote : String.utf8EncodeChar '"' = [0x22] := by decide
  simp [printText, hquote]

/-- **A printed string is read as it was.** -/
theorem text_printed (s : String) (rest : List UInt8) :
    text (utf8Chars (Value.text s).print ++ rest) = (.ok s, rest) := by
  rw [Value.print_text, utf8Chars_printText, text, bind_ok (peekToken_cons (by decide) _)]
  simp only [if_true]
  rw [bind_ok (advance_cons _ _), stringBody_printed]

/-! ## Passing over -/

theorem skipAfter_nil (fuel : Nat) (s : List UInt8) : skipAfter fuel [] s = (.ok (), s) := by
  cases fuel <;> rfl

/-- A printed text is passed over as a whole. -/
theorem skipValue_text (s : String) (rest : List UInt8) :
    skipValue (utf8Chars (Value.text s).print ++ rest) = (.ok (), rest) := by
  have hstring := skipString_printed s.toList rest
  rw [Value.print_text, skipValue, bind_ok (size_apply _), utf8Chars_printText, skipWithin,
    bind_ok (peekToken_cons (by decide) _)]
  simp only [show (0x22 : UInt8) ≠ 0x6e by decide, show (0x22 : UInt8) ≠ 0x74 by decide,
    show (0x22 : UInt8) ≠ 0x66 by decide, show (0x22 : UInt8) ≠ 0x2d by decide,
    show digit? 0x22 = none by decide, Option.isSome_none, Bool.false_eq_true, if_false, if_true]
  rw [bind_ok (advance_cons _ _), bind_ok hstring, skipAfter_nil]

/-- So is a printed number. -/
theorem skipValue_int (n : Int) {rest : List UInt8} (h : EndsNumber rest) :
    skipValue (utf8Chars (Value.int n).print ++ rest) = (.ok (), rest) := by
  have hdigits := skipNumber_digitBytes n.natAbs h
  rw [skipValue, bind_ok (size_apply _), utf8Chars_print_int]
  by_cases hneg : n < 0
  · rw [if_pos hneg, List.cons_append, skipWithin, bind_ok (peekToken_cons (by decide) _)]
    simp only [show (0x2d : UInt8) ≠ 0x6e by decide, show (0x2d : UInt8) ≠ 0x74 by decide,
      show (0x2d : UInt8) ≠ 0x66 by decide, if_false, if_true]
    rw [bind_ok (advance_cons _ _), bind_ok hdigits, skipAfter_nil]
  · obtain ⟨b, d, bytes, hb, hd⟩ := digitBytes_eq_cons n.natAbs
    rw [hb, List.cons_append] at hdigits
    rw [if_neg hneg, hb, List.cons_append, skipWithin]
    have ne {c : UInt8} (hc : digit? c = none) : b ≠ c := by
      rintro rfl
      simp [hd] at hc
    rw [bind_ok (peekToken_cons (ne_of_digit? hd).1 _)]
    simp only [ne (c := 0x6e) (by decide), ne (c := 0x74) (by decide), ne (c := 0x66) (by decide),
      ne (c := 0x2d) (by decide), hd, Option.isSome_some, if_false, if_true]
    rw [bind_ok hdigits, skipAfter_nil]

/-! ## Keys -/

/-- The bytes in front of a key: a comma, unless it is the first. -/
def separator (first : Bool) : List UInt8 := if first then [] else [0x2c]

/-- After a printed key the reader stands before its value. -/
theorem nextKey_printed (first : Bool) (key : String) (rest : List UInt8) :
    nextKey first (separator first ++ (utf8Chars (printText key) ++ rest)) =
      (.ok (some key), rest) := by
  have hkey : nextKey.key 0x22 (utf8Chars (printText key) ++ rest) = (.ok (some key), rest) := by
    rw [utf8Chars_printText, nextKey.key]
    simp only [if_true]
    rw [bind_ok (advance_cons _ _), bind_ok (stringBody_printed key rest), pure_apply]
  cases first with
  | true =>
    rw [utf8Chars_printText] at hkey ⊢
    rw [separator, if_pos rfl, List.nil_append, nextKey, bind_ok (peekToken_cons (by decide) _)]
    simp only [show (0x22 : UInt8) ≠ 0x7d by decide, if_false, if_true]
    exact hkey
  | false =>
    rw [utf8Chars_printText] at hkey ⊢
    rw [separator, if_neg (by decide), List.singleton_append, nextKey,
      bind_ok (peekToken_cons (by decide) _)]
    simp only [show (0x2c : UInt8) ≠ 0x7d by decide, Bool.false_eq_true, if_false, if_true]
    rw [bind_ok (advance_cons _ _), bind_ok (peekToken_cons (by decide) _)]
    exact hkey

/-- At the closing brace there is no further key. -/
theorem nextKey_end (first : Bool) (rest : List UInt8) :
    nextKey first (0x7d :: rest) = (.ok none, 0x7d :: rest) := by
  rw [nextKey, bind_ok (peekToken_cons (by decide) _)]
  rfl

theorem colon_cons (rest : List UInt8) : colon (0x3a :: rest) = (.ok (), rest) := by
  rw [colon, bind_ok (peekToken_cons (by decide) _)]
  rfl

theorem closeRecord_cons (rest : List UInt8) : closeRecord (0x7d :: rest) = (.ok (), rest) := by
  rw [closeRecord, bind_ok (peekToken_cons (by decide) _)]
  rfl

end Reader

/-! ## Entries -/

namespace Shape

open Reader

variable {ρ : Type} {sh : Shape ρ}

/-- `sh.Takes seen r entries seen' r'` — after the listed keys `seen` have come and the record `r`
has been made of them, the entries turn these into `seen'` and `r'`. -/
inductive Takes (sh : Shape ρ) :
    List String → ρ → List (String × Value) → List String → ρ → Prop where
  | nil (seen : List String) (r : ρ) : Takes sh seen r [] seen r
  /-- An entry whose key is listed, and has not come before. -/
  | listed {seen seen' : List String} {r r' : ρ} {key : String} {value : Value}
      {entries : List (String × Value)} (f : Field ρ) (put : ρ → ρ)
      (find : (sh.fields.find? fun f => f.name == key) = some f)
      (unseen : seen.contains key = false)
      (reads : ∀ rest, EndsNumber rest → f.read (utf8Chars value.print ++ rest) = (.ok put, rest))
      (next : Takes sh (key :: seen) (put r) entries seen' r') :
      Takes sh seen r ((key, value) :: entries) seen' r'
  /-- An entry whose key is not listed. -/
  | unlisted {seen seen' : List String} {r r' : ρ} {key : String} {value : Value}
      {entries : List (String × Value)}
      (find : (sh.fields.find? fun f => f.name == key) = none)
      (skips : ∀ rest, EndsNumber rest → skipValue (utf8Chars value.print ++ rest) = (.ok (), rest))
      (next : Takes sh seen r entries seen' r') :
      Takes sh seen r ((key, value) :: entries) seen' r'

/-- An entry whose key is that of a text field. -/
theorem Takes.text {seen seen' : List String} {r r' : ρ} {key value : String}
    {entries : List (String × Value)} {put : String → ρ → ρ}
    (find : (sh.fields.find? fun f => f.name == key) = some (field key Reader.text put))
    (unseen : seen.contains key = false)
    (next : sh.Takes (key :: seen) (put value r) entries seen' r') :
    sh.Takes seen r ((key, .text value) :: entries) seen' r' :=
  .listed _ (put value) find unseen (fun rest _ => map_ok (text_printed value rest) put) next

/-- An entry whose key is that of a field of integers. -/
theorem Takes.int64 {seen seen' : List String} {r r' : ρ} {key : String} {value : Int}
    (hvalue : IsInt64 value) {entries : List (String × Value)} {put : Int → ρ → ρ}
    (find : (sh.fields.find? fun f => f.name == key) = some (field key Reader.int64 put))
    (unseen : seen.contains key = false)
    (next : sh.Takes (key :: seen) (put value r) entries seen' r') :
    sh.Takes seen r ((key, .int value) :: entries) seen' r' :=
  .listed _ (put value) find unseen (fun _ h => map_ok (int64_printed hvalue h) put) next

/-- The bytes of printed entries, up to the end of the record. -/
def entryBytes : Bool → List (String × Value) → List UInt8
  | _, [] => []
  | first, (key, value) :: entries =>
    separator first ++ (utf8Chars (printText key) ++ 0x3a :: (utf8Chars value.print ++
      entryBytes false entries))

/-- The bytes of printed fields are those of the entries one by one, with commas between them. -/
theorem utf8Chars_printFields (entries : List (String × Value)) :
    utf8Chars (printFields entries) = entryBytes true entries := by
  have hcolon : String.utf8EncodeChar ':' = [0x3a] := by decide
  have hcomma : String.utf8EncodeChar ',' = [0x2c] := by decide
  induction entries with
  | nil => simp [entryBytes]
  | cons e entries ih =>
    obtain ⟨key, value⟩ := e
    cases entries with
    | nil => simp [entryBytes, separator, hcolon]
    | cons e' entries =>
      obtain ⟨key', value'⟩ := e'
      rw [printFields_cons_cons]
      simp only [utf8Chars_append, utf8Chars_cons, hcolon, hcomma, ih]
      simp [entryBytes, separator]

/-- There are not more entries than bytes, so that the reader does not run out of steps. -/
theorem length_le_entryBytes (first : Bool) (entries : List (String × Value)) :
    entries.length ≤ (entryBytes first entries).length := by
  induction entries generalizing first with
  | nil => exact Nat.zero_le _
  | cons e entries ih =>
    have := ih false
    simp only [entryBytes, List.length_append, List.length_cons]
    omega

/-- After a value comes a comma or the end of the record, and neither goes on with a number. -/
theorem endsNumber_entryBytes (entries : List (String × Value)) (rest : List UInt8) :
    EndsNumber (entryBytes false entries ++ 0x7d :: rest) := by
  cases entries with
  | nil => exact endsNumber_cons (by decide)
  | cons e entries => exact endsNumber_cons (by decide)

/-- **The entries of a printed record are read one by one.** -/
theorem readEntries_entryBytes {seen seen' : List String} {r r' : ρ}
    {entries : List (String × Value)} (h : sh.Takes seen r entries seen' r')
    (required : (sh.fields.all fun f => !f.required || seen'.contains f.name) = true)
    {fuel : Nat} (hfuel : entries.length < fuel) (first : Bool) (rest : List UInt8) :
    sh.readEntries fuel first seen r (entryBytes first entries ++ 0x7d :: rest) =
      (.ok r', 0x7d :: rest) := by
  -- the fuel outlasts the entries, so there is some left at the end of the record
  induction h generalizing fuel first with
  | nil seen r =>
    obtain ⟨fuel, rfl⟩ : ∃ n, fuel = n + 1 := Nat.exists_eq_add_one.2 (Nat.zero_lt_of_lt hfuel)
    rw [entryBytes, List.nil_append, readEntries, bind_ok (nextKey_end first rest)]
    simp only [required, if_true]
    rfl
  | @listed seen seen' r r' key value entries f put find unseen reads next ih =>
    obtain ⟨fuel, rfl⟩ : ∃ n, fuel = n + 1 := Nat.exists_eq_add_one.2 (Nat.zero_lt_of_lt hfuel)
    have hvalue := reads _ (endsNumber_entryBytes entries rest)
    have hnext := ih required (Nat.lt_of_succ_lt_succ hfuel) false
    simp only [entryBytes, List.append_assoc, List.cons_append]
    rw [readEntries, bind_ok (nextKey_printed first key _)]
    simp only [find, unseen, Bool.false_eq_true, if_false]
    rw [bind_ok (colon_cons _), bind_ok hvalue, hnext]
  | @unlisted seen seen' r r' key value entries find skips next ih =>
    obtain ⟨fuel, rfl⟩ : ∃ n, fuel = n + 1 := Nat.exists_eq_add_one.2 (Nat.zero_lt_of_lt hfuel)
    have hvalue := skips _ (endsNumber_entryBytes entries rest)
    have hnext := ih required (Nat.lt_of_succ_lt_succ hfuel) false
    simp only [entryBytes, List.append_assoc, List.cons_append]
    rw [readEntries, bind_ok (nextKey_printed first key _)]
    simp only [find]
    rw [bind_ok (colon_cons _), bind_ok hvalue, hnext]

/-! ## Records -/

/-- A record is printed as its entries in braces. -/
theorem utf8Chars_print_record (entries : List (String × Value)) (rest : List UInt8) :
    utf8Chars (Value.record entries).print ++ rest =
      0x7b :: (entryBytes true entries ++ 0x7d :: rest) := by
  have hopen : String.utf8EncodeChar '\x7b' = [0x7b] := by decide
  have hclose : String.utf8EncodeChar '\x7d' = [0x7d] := by decide
  rw [← utf8Chars_printFields]
  simp [hopen, hclose]

/-- A printed record is read as what its entries make of the blank one. -/
theorem read_print {entries : List (String × Value)} {seen : List String} {r : ρ}
    (h : sh.Takes [] sh.blank entries seen r)
    (required : (sh.fields.all fun f => !f.required || seen.contains f.name) = true)
    (rest : List UInt8) :
    sh.read (utf8Chars (Value.record entries).print ++ rest) = (.ok r, rest) := by
  have hfuel : entries.length < (entryBytes true entries ++ 0x7d :: rest).length + 1 := by
    have := length_le_entryBytes true entries
    simp only [List.length_append]
    omega
  have hentries := readEntries_entryBytes h required hfuel true rest
  rw [utf8Chars_print_record, read, bind_ok (peekToken_cons (by decide) _)]
  simp only [if_true]
  rw [bind_ok (advance_cons _ _), bind_ok (size_apply _),
    closing_ok hentries (closeRecord_cons rest)]

/-- **A printed record is decoded** to what its entries make of the blank one. -/
theorem decode_print {entries : List (String × Value)} {seen : List String} {r : ρ}
    (h : sh.Takes [] sh.blank entries seen r)
    (required : (sh.fields.all fun f => !f.required || seen.contains f.name) = true) :
    sh.decode (utf8 (Value.record entries).toText) = .ok r := by
  have hread := read_print h required []
  rw [List.append_nil] at hread
  rw [Value.toText, utf8_ofList, decode, document_ok hread]

end Shape

end Gatehouse.Json
