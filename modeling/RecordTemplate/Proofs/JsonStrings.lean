import RecordTemplate.Json.Reader

/-!
Strings in JSON text, written and read again. Writing escapes a text character by character, and
each character is read back from what it was written as (`StringLiteral.read_encodeChar_append`), so
the whole text is read back, up to the quote behind it and no further
(`StringLiteral.read_encode_append`). The readers of names and of values without parts take a
written string off the start of a text in the same way.
-/

set_option autoImplicit false
set_option relaxedAutoImplicit false

namespace RecordTemplate.Json

/-! ### Escapes -/

namespace StringLiteral

variable {purpose : Purpose}

theorem read_quote (rest : List Char) : read purpose ('"' :: rest) = .ok ([], rest) := by
  rw [read]

theorem read_escape {c : Char} {text behind : List Char}
    (hescape : readEscape purpose text = .ok (c, behind)) :
    read purpose ('\\' :: text) =
      (read purpose behind).map fun (chars, after) ↦ (c :: chars, after) := by
  rw [read]
  split
  · next fault hfault =>
    rw [hescape] at hfault
    contradiction
  · next d after hread =>
    rw [hescape, Except.ok.injEq, Prod.mk.injEq] at hread
    rw [hread.1, hread.2]

theorem read_cons {c : Char} (hquote : c ≠ '"') (hbackslash : c ≠ '\\') (hcontrol : 0x20 ≤ c.toNat)
    (text : List Char) :
    read purpose (c :: text) =
      (read purpose text).map fun (chars, after) ↦ (c :: chars, after) := by
  rw [read.eq_def]
  split
  · contradiction
  · next heq => exact absurd (List.cons.inj heq).1 hquote
  · next heq => exact absurd (List.cons.inj heq).1 hbackslash
  · next heq =>
    obtain ⟨rfl, rfl⟩ := List.cons.inj heq
    rw [if_neg (Nat.not_lt.mpr hcontrol)]

theorem hexValue?_digitChar : ∀ digit < 16, hexValue? (Nat.digitChar digit) = some digit := by
  decide

/-- A control is read back from the two digits of its number. -/
theorem readEscape_control {c : Char} (hc : c.toNat < 0x20) (rest : List Char) :
    readEscape purpose ('u' :: '0' :: '0' :: Nat.digitChar (c.toNat / 16) ::
      Nat.digitChar (c.toNat % 16) :: rest) = .ok (c, rest) := by
  have hzero : hexValue? '0' = some 0 := by decide
  have hhigh := hexValue?_digitChar (c.toNat / 16) (by omega)
  have hlow := hexValue?_digitChar (c.toNat % 16) (by omega)
  have hunit : ((0 * 16 + 0) * 16 + c.toNat / 16) * 16 + c.toNat % 16 = c.toNat := by omega
  have hread : readUnit ('0' :: '0' :: Nat.digitChar (c.toNat / 16) ::
      Nat.digitChar (c.toNat % 16) :: rest) = .ok (c.toNat, rest) := by
    simp only [readUnit, unitOfDigits?, hzero, hhigh, hlow, Option.bind_eq_bind, Option.bind_some,
      Option.pure_def, hunit]
  have hleading : isLeadingSurrogate c.toNat = false := by
    simp only [isLeadingSurrogate, Bool.and_eq_false_iff, decide_eq_false_iff_not]
    omega
  have htrailing : isTrailingSurrogate c.toNat = false := by
    simp only [isTrailingSurrogate, Bool.and_eq_false_iff, decide_eq_false_iff_not]
    omega
  rw [readEscape, readUnicode, hread]
  simp [hleading, htrailing, Char.ofNat_toNat]

/-- A character is read back from what it was written as. -/
theorem read_encodeChar_append (c : Char) (rest : List Char) :
    read purpose (encodeChar c ++ rest) =
      (read purpose rest).map fun (chars, after) ↦ (c :: chars, after) := by
  unfold encodeChar
  split
  any_goals exact read_escape rfl
  next hquote hbackslash _ _ _ _ _ =>
    by_cases hcontrol : c.toNat < 0x20
    · rw [if_pos hcontrol]
      exact read_escape (readEscape_control hcontrol rest)
    · rw [if_neg hcontrol]
      exact read_cons hquote hbackslash (Nat.le_of_not_lt hcontrol) rest

/-- A text is read back from what it was written as, whatever stands behind its closing quote. -/
theorem read_encode_append (text rest : List Char) :
    read purpose (text.flatMap encodeChar ++ '"' :: rest) = .ok (text, rest) := by
  induction text with
  | nil => exact read_quote rest
  | cons c text ih =>
    rw [List.flatMap_cons, List.append_assoc, read_encodeChar_append, ih]
    rfl

theorem encode_append (text rest : List Char) :
    encode text ++ rest = '"' :: (text.flatMap encodeChar ++ '"' :: rest) := by
  simp [encode]

end StringLiteral

/-! ### Strings and names -/

theorem skipBlanks_cons {c : Char} (hc : ¬ isBlank c) (text : List Char) :
    skipBlanks (c :: text) = c :: text :=
  List.dropWhile_cons_of_neg hc

theorem readMark_cons {mark : Char} (hmark : ¬ isBlank mark) (text : List Char) :
    readMark mark (mark :: text) = .ok text := by
  rw [readMark, skipBlanks_cons hmark]
  exact if_pos rfl

theorem readString_encode_append (purpose : Purpose) (text : String) (rest : List Char) :
    readString purpose (StringLiteral.encode text.toList ++ rest) = .ok (text, rest) := by
  rw [StringLiteral.encode_append, readString, readMark_cons (by decide)]
  dsimp only
  rw [StringLiteral.read_encode_append]
  show Except.ok (String.ofList text.toList, rest) = _
  rw [String.ofList_toList]

theorem readName_encode_append (purpose : Purpose) (name : String) (rest : List Char) :
    readName purpose (StringLiteral.encode name.toList ++ ':' :: rest) = .ok (name, rest) := by
  rw [readName, readString_encode_append]
  dsimp only
  rw [readMark_cons (by decide)]
  rfl

theorem readAtom_encode_append (purpose : Purpose) (text : String) (rest : List Char) :
    readAtom purpose (StringLiteral.encode text.toList ++ rest) = .ok (string text, rest) := by
  rw [StringLiteral.encode_append, readAtom, StringLiteral.read_encode_append]
  show Except.ok (string (String.ofList text.toList), rest) = _
  rw [String.ofList_toList]

end RecordTemplate.Json
