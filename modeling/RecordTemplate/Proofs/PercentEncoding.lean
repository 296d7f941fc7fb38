import RecordTemplate.Encoding
import RecordTemplate.Proofs.Bytes

/-!
Percent encoding and its inverse. An encoded text consists of the characters that the encoding keeps
and of `%` (`isEncoded_of_mem_encode`). Decoding replaces each `%` with two hexadecimal digits
behind it by the byte that they stand for, and every other character by its bytes in UTF-8; applied
to an encoded text it gives the bytes of the text (`decode_encode`). So different texts have
different encodings (`encode_injective`).
-/

set_option autoImplicit false
set_option relaxedAutoImplicit false

namespace RecordTemplate.Percent

/-! ### The characters of an encoded text -/

/-- A character that can occur in an encoded text. -/
def IsEncoded (c : Char) : Prop :=
  isUnreserved c ∨ c = '%'

instance (c : Char) : Decidable (IsEncoded c) :=
  inferInstanceAs (Decidable (_ ∨ _))

theorem isUnreserved_hexDigit : ∀ n < 16, isUnreserved (hexDigit n) := by
  decide

theorem isEncoded_of_mem_encodeByte {byte : UInt8} {c : Char} (hc : c ∈ encodeByte byte) :
    IsEncoded c := by
  have hbyte := byte.toNat_lt
  simp only [encodeByte, List.mem_cons, List.not_mem_nil, or_false] at hc
  rcases hc with rfl | rfl | rfl
  · exact Or.inr rfl
  · exact Or.inl (isUnreserved_hexDigit _ (by omega))
  · exact Or.inl (isUnreserved_hexDigit _ (by omega))

theorem isEncoded_of_mem_encode {text : String} {c : Char} (hc : c ∈ (encode text).toList) :
    IsEncoded c := by
  rw [encode, String.toList_ofList, List.mem_flatMap] at hc
  obtain ⟨d, -, hd⟩ := hc
  unfold encodeChar at hd
  split at hd
  · next hkept =>
    rw [List.mem_singleton.mp hd]
    exact Or.inl hkept
  · obtain ⟨byte, -, hbyte⟩ := List.mem_flatMap.mp hd
    exact isEncoded_of_mem_encodeByte hbyte

/-! ### Decoding -/

/-- The value of a hexadecimal digit, in upper case or in lower case. -/
def hexValue? (c : Char) : Option Nat :=
  if '0' ≤ c ∧ c ≤ '9' then some (c.toNat - '0'.toNat)
  else if 'A' ≤ c ∧ c ≤ 'F' then some (c.toNat - 'A'.toNat + 10)
  else if 'a' ≤ c ∧ c ≤ 'f' then some (c.toNat - 'a'.toNat + 10)
  else none

/-- The bytes that a percent-encoded text stands for. A `%` without two digits behind it stands for
itself. -/
def decode : List Char → List UInt8
  | [] => []
  | '%' :: high :: low :: text =>
    match hexValue? high, hexValue? low with
    | some first, some second => UInt8.ofNat (first * 16 + second) :: decode text
    | _, _ => String.utf8EncodeChar '%' ++ decode (high :: low :: text)
  | c :: text => String.utf8EncodeChar c ++ decode text

theorem hexValue?_hexDigit : ∀ n < 16, hexValue? (hexDigit n) = some n := by
  decide

theorem decode_cons_of_ne {c : Char} (hc : c ≠ '%') (text : List Char) :
    decode (c :: text) = String.utf8EncodeChar c ++ decode text := by
  rw [decode]
  intro high low rest hpercent
  exact absurd hpercent hc

theorem decode_encodeByte_append (byte : UInt8) (text : List Char) :
    decode (encodeByte byte ++ text) = byte :: decode text := by
  have hbyte := byte.toNat_lt
  have hhigh := hexValue?_hexDigit (byte.toNat / 16) (by omega)
  have hlow := hexValue?_hexDigit (byte.toNat % 16) (by omega)
  simp only [encodeByte, List.cons_append, List.nil_append, decode, hhigh, hlow]
  rw [Nat.div_add_mod', UInt8.ofNat_toNat]

theorem decode_flatMap_encodeByte_append (bytes : List UInt8) (text : List Char) :
    decode (bytes.flatMap encodeByte ++ text) = bytes ++ decode text := by
  induction bytes with
  | nil => rfl
  | cons byte bytes ih =>
    rw [List.flatMap_cons, List.append_assoc, decode_encodeByte_append, ih, List.cons_append]

theorem decode_encodeChar_append (c : Char) (text : List Char) :
    decode (encodeChar c ++ text) = String.utf8EncodeChar c ++ decode text := by
  unfold encodeChar
  split
  · next hkept =>
    have hc : c ≠ '%' := by
      rintro rfl
      exact absurd hkept (by decide)
    rw [List.singleton_append, decode_cons_of_ne hc]
  · exact decode_flatMap_encodeByte_append _ _

/-- An encoded text decodes to the bytes of the text, whatever stands behind it. -/
theorem decode_encode_append (text : String) (rest : List Char) :
    decode ((encode text).toList ++ rest) = Text.bytes text.toList ++ decode rest := by
  rw [encode, String.toList_ofList]
  induction text.toList with
  | nil => rfl
  | cons c text ih =>
    rw [List.flatMap_cons, List.append_assoc, decode_encodeChar_append, ih, Text.bytes_cons,
      List.append_assoc]

/-- Decoding an encoded text gives the bytes of the text. -/
theorem decode_encode (text : String) : decode (encode text).toList = Text.bytes text.toList := by
  simpa [decode] using decode_encode_append text []

/-- Text without `%` decodes to its own bytes. -/
theorem decode_append_of_not_mem {text : List Char} (htext : '%' ∉ text) (rest : List Char) :
    decode (text ++ rest) = Text.bytes text ++ decode rest := by
  induction text with
  | nil => rfl
  | cons c text ih =>
    obtain ⟨hc, hothers⟩ := List.ne_and_not_mem_of_not_mem_cons htext
    rw [List.cons_append, decode_cons_of_ne (Ne.symm hc), ih hothers, Text.bytes_cons,
      List.append_assoc]

theorem encode_injective {text other : String} (hencode : encode text = encode other) :
    text = other := by
  have hbytes := decode_encode text
  rw [hencode, decode_encode] at hbytes
  exact (Text.eq_of_bytes_eq hbytes).symm

example : decode "a%20b%C3%A9".toList = Text.bytes "a bé".toList := by
  decide

end RecordTemplate.Percent
