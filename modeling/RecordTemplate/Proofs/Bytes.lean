import Mathlib.Data.String.Basic
import RecordTemplate.Template

/-!
Byte offsets of a text and the characters that stand at them. The marks of the syntax are ASCII
characters, and their bytes occur in the UTF-8 form of no other character: a byte of a mark at an
offset means that the text is cut there into the part before the mark, the mark and the part
behind it (`getElem?_bytes_eq_some_iff`). So a stretch of a source between two offsets
(`Text.slice`) is a stretch of its characters wherever the offsets are character boundaries
(`slice_eq_ofList`).
-/

set_option autoImplicit false
set_option relaxedAutoImplicit false

namespace RecordTemplate.Text

/-! ### Bytes -/

/-- The bytes of a text in UTF-8. -/
def bytes (text : List Char) : List UInt8 :=
  text.flatMap String.utf8EncodeChar

@[simp] theorem bytes_nil : bytes [] = [] := rfl

@[simp] theorem bytes_cons (c : Char) (text : List Char) :
    bytes (c :: text) = String.utf8EncodeChar c ++ bytes text := rfl

@[simp] theorem bytes_append (text rest : List Char) :
    bytes (text ++ rest) = bytes text ++ bytes rest :=
  List.flatMap_append

@[simp] theorem length_bytes (text : List Char) : (bytes text).length = byteSize text := by
  induction text with
  | nil => rfl
  | cons c text ih => simp [ih]

theorem toList_toByteArray (source : String) :
    source.toByteArray.data.toList = bytes source.toList := by
  obtain ⟨text, rfl⟩ := source.exists_eq_ofList
  simp [List.utf8Encode, bytes]

theorem eq_of_bytes_eq {source other : String} (hbytes : bytes source.toList = bytes other.toList) :
    source = other := by
  rw [← toList_toByteArray, ← toList_toByteArray, Array.toList_inj] at hbytes
  exact String.toByteArray_inj.mp (ByteArray.ext hbytes)

/-- The byte of a source at an offset. -/
def byteAt? (source : String) (offset : Nat) : Option UInt8 :=
  source.toByteArray[offset]?

theorem byteAt?_eq (source : String) (offset : Nat) :
    byteAt? source offset = (bytes source.toList)[offset]? := by
  rw [← toList_toByteArray, Array.getElem?_toList, byteAt?]
  by_cases hoffset : offset < source.toByteArray.size
  · rw [getElem?_pos source.toByteArray offset hoffset, Array.getElem?_eq_getElem hoffset]
    rfl
  · rw [getElem?_neg source.toByteArray offset hoffset]
    exact (Array.getElem?_eq_none (Nat.le_of_not_lt hoffset)).symm

/-- The size of a source in bytes, counted from its characters. -/
@[simp] theorem byteSize_toList (source : String) :
    byteSize source.toList = source.utf8ByteSize := by
  rw [← length_bytes, ← toList_toByteArray]
  rfl

@[simp] theorem byteSize_eq_zero_iff {text : List Char} : byteSize text = 0 ↔ text = [] := by
  cases text with
  | nil => simp
  | cons c text =>
    have hc := c.utf8Size_pos
    simp only [byteSize_cons, reduceCtorEq, iff_false]
    omega

/-- Cuts of a text at the same offset are the same. -/
theorem eq_of_append_eq {before after lead rest : List Char}
    (heq : before ++ after = lead ++ rest) (hsize : byteSize before = byteSize lead) :
    before = lead := by
  have hbefore := splitAtByte?_eq_some_iff.mpr ⟨heq, hsize⟩
  have hlead := splitAtByte?_eq_some_iff.mpr ⟨rfl (a := lead ++ rest), rfl⟩
  rw [hbefore, Option.some.injEq, Prod.mk.injEq] at hlead
  exact hlead.1

/-- Of two ways to cut a text, the one with the smaller first part cuts the first part of the
other. -/
theorem exists_middle_of_append_eq {first rest other tail : List Char}
    (heq : first ++ rest = other ++ tail) (hle : byteSize first ≤ byteSize other) :
    ∃ middle, other = first ++ middle ∧ rest = middle ++ tail := by
  rcases List.append_eq_append_iff.mp heq with ⟨middle, hother, hrest⟩ | ⟨middle, hfirst, htail⟩
  · exact ⟨middle, hother, hrest⟩
  · rw [hfirst, byteSize_append] at hle
    have hmiddle : middle = [] := byteSize_eq_zero_iff.mp (by omega)
    subst hmiddle
    exact ⟨[], by simpa using hfirst.symm, by simpa using htail.symm⟩

/-! ### Marks -/

/-- The bytes of a character outside ASCII lie outside ASCII. -/
theorem le_toNat_of_mem_utf8EncodeChar {c : Char} (hc : c.utf8Size ≠ 1) {byte : UInt8}
    (hbyte : byte ∈ String.utf8EncodeChar c) : 0x80 ≤ byte.toNat := by
  have hlarge : ¬ c.val.toNat ≤ 0x7f := fun hsmall ↦
    hc (Char.utf8Size_eq_one_iff.mpr (UInt32.le_iff_toNat_le.mpr hsmall))
  rw [String.utf8EncodeChar, if_neg hlarge] at hbyte
  split_ifs at hbyte <;> simp only [List.mem_cons, List.not_mem_nil, or_false] at hbyte <;>
    rcases hbyte with rfl | rfl | rfl | rfl <;> simp only [UInt8.toNat_ofNat'] <;> omega

theorem toNat_toUInt8_lt {mark : Char} (hmark : mark.utf8Size = 1) :
    mark.toUInt8.toNat = mark.toNat ∧ mark.toNat < 0x80 := by
  have hsmall : mark.val.toNat ≤ 0x7f :=
    UInt32.le_iff_toNat_le.mp (Char.utf8Size_eq_one_iff.mp hmark)
  have hbyte : mark.toUInt8.toNat = mark.val.toNat % 256 := UInt32.toNat_toUInt8 mark.val
  change mark.toUInt8.toNat = mark.val.toNat ∧ mark.val.toNat < 0x80
  omega

/-- The byte of a mark in the form of a character means that the character is the mark. -/
theorem getElem?_utf8EncodeChar_eq_some_iff {mark : Char} (hmark : mark.utf8Size = 1) (c : Char)
    (offset : Nat) :
    (String.utf8EncodeChar c)[offset]? = some mark.toUInt8 ↔ c = mark ∧ offset = 0 := by
  have hbyte := toNat_toUInt8_lt hmark
  by_cases hc : c.utf8Size = 1
  · have hchar := toNat_toUInt8_lt hc
    rw [String.utf8EncodeChar_eq_singleton hc, List.getElem?_singleton]
    constructor
    · intro h
      obtain ⟨hoffset, hbytes⟩ := Option.ite_none_right_eq_some.mp h
      have hnat : c.toUInt8.toNat = mark.toUInt8.toNat :=
        congrArg UInt8.toNat (Option.some.inj hbytes)
      exact ⟨Char.toNat_inj.mp (by omega), hoffset⟩
    · rintro ⟨rfl, rfl⟩
      rfl
  · constructor
    · intro h
      have hlarge := le_toNat_of_mem_utf8EncodeChar hc (List.mem_of_getElem? h)
      omega
    · rintro ⟨rfl, -⟩
      contradiction

/-- The byte of a mark stands at an offset exactly if the text has the mark behind a part of that
many bytes. -/
theorem getElem?_bytes_eq_some_iff {mark : Char} (hmark : mark.utf8Size = 1) {text : List Char}
    {offset : Nat} :
    (bytes text)[offset]? = some mark.toUInt8 ↔
      ∃ before after, text = before ++ mark :: after ∧ byteSize before = offset := by
  induction text generalizing offset with
  | nil => simp
  | cons c text ih =>
    rw [bytes_cons, List.getElem?_append, String.length_utf8EncodeChar]
    have hpos := c.utf8Size_pos
    split
    · rw [getElem?_utf8EncodeChar_eq_some_iff hmark]
      constructor
      · rintro ⟨rfl, rfl⟩
        exact ⟨[], text, rfl, rfl⟩
      · rintro ⟨_ | ⟨d, before⟩, after, htext, hsize⟩
        · exact ⟨(List.cons.inj htext).1, hsize.symm⟩
        · obtain ⟨rfl, -⟩ := List.cons.inj htext
          rw [byteSize_cons] at hsize
          omega
    · rw [ih]
      constructor
      · intro hrest
        obtain ⟨before, after, rfl, hsize⟩ := hrest
        exact ⟨c :: before, after, rfl, by rw [byteSize_cons]; omega⟩
      · rintro ⟨_ | ⟨d, before⟩, after, htext, hsize⟩
        · rw [byteSize_nil] at hsize
          omega
        · obtain ⟨rfl, htail⟩ := List.cons.inj htext
          exact ⟨before, after, htail, by rw [byteSize_cons] at hsize; omega⟩

/-- `getElem?_bytes_eq_some_iff` for the bytes of a source. -/
theorem byteAt?_eq_some_iff {mark : Char} (hmark : mark.utf8Size = 1) {source : String}
    {offset : Nat} :
    byteAt? source offset = some mark.toUInt8 ↔
      ∃ before after, source.toList = before ++ mark :: after ∧ byteSize before = offset := by
  rw [byteAt?_eq, getElem?_bytes_eq_some_iff hmark]

/-! ### Stretches -/

theorem utf8Len_eq_byteSize (text : List Char) : String.utf8Len text = byteSize text := by
  rw [← String.utf8ByteSize_ofList, ← byteSize_toList, String.toList_ofList]

theorem slice_eq_ofList {source : String} {before text after : List Char}
    (hsource : source.toList = before ++ text ++ after) :
    slice source ⟨byteSize before, byteSize before + byteSize text⟩ = String.ofList text := by
  rw [← String.ofList_toList (s := source), hsource]
  simpa only [slice, utf8Len_eq_byteSize] using String.extract_of_valid before text after

/-- A part of a source ends at a character boundary. -/
theorem isValid_byteSize {source : String} {before after : List Char}
    (hsource : source.toList = before ++ after) :
    (⟨byteSize before⟩ : String.Pos.Raw).IsValid source := by
  rw [String.Pos.Raw.isValid_iff_exists_append]
  refine ⟨String.ofList before, String.ofList after, ?_, ?_⟩
  · rw [← String.ofList_append, ← hsource, String.ofList_toList]
  · rw [String.rawEndPos_ofList, utf8Len_eq_byteSize]

end RecordTemplate.Text
