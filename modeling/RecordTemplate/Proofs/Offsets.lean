import RecordTemplate.Proofs.Highlighting

/-!
Lines and highlightings for offsets that no evaluation has found. The line at a position is told by
the bytes of the source: it reaches from one line break to the next (`IsLineAround`), also around a
position within a character or on a line break. A highlighting cuts its line at two offsets, and
aborts if one of them is no boundary of a character (`Text.between?_eq_none_iff`), but only if the
line is narrow enough to be cut at all (`highlighting_breaks_iff`).
-/

set_option autoImplicit false
set_option relaxedAutoImplicit false

namespace RecordTemplate

namespace Text

/-! ### Lines between bytes -/

/-- The byte of a line break stands at an offset. -/
def IsBreakAt (source : String) (offset : Nat) : Prop :=
  byteAt? source offset = some '\n'.toUInt8 ∨ byteAt? source offset = some '\r'.toUInt8

/-- A stretch of a source between two boundaries of its characters that an offset lies in or at the
end of. No line break stands in it, and at each side there is a line break or an end of the
source. -/
structure IsLineAround (source : String) (offset : Nat) (range : ByteRange) : Prop where
  start_boundary : (⟨range.start⟩ : String.Pos.Raw).IsValid source
  stop_boundary : (⟨range.stop⟩ : String.Pos.Raw).IsValid source
  start_le : range.start ≤ offset
  le_stop : offset ≤ range.stop
  unbroken : ∀ other, range.start ≤ other → other < range.stop → ¬ IsBreakAt source other
  starts : range.start = 0 ∨ IsBreakAt source (range.start - 1)
  stops : range.stop = source.utf8ByteSize ∨ IsBreakAt source range.stop

def Line.range (line : Line) : ByteRange :=
  ⟨line.start, line.start + byteSize line.text⟩

theorem isBreakAt_iff {source : String} {offset : Nat} :
    IsBreakAt source offset ↔
      ∃ before c after, source.toList = before ++ c :: after ∧ isLineBreak c ∧
        byteSize before = offset := by
  have hfeed : '\n'.utf8Size = 1 := rfl
  have hreturn : '\r'.utf8Size = 1 := rfl
  rw [IsBreakAt, byteAt?_eq_some_iff hfeed, byteAt?_eq_some_iff hreturn]
  constructor
  · rintro (⟨before, after, hsource, hsize⟩ | ⟨before, after, hsource, hsize⟩)
    · exact ⟨before, '\n', after, hsource, by decide, hsize⟩
    · exact ⟨before, '\r', after, hsource, by decide, hsize⟩
  · rintro ⟨before, c, after, hsource, hc, hsize⟩
    rw [isLineBreak, Bool.or_eq_true, beq_iff_eq, beq_iff_eq] at hc
    rcases hc with rfl | rfl
    · exact Or.inl ⟨before, after, hsource, hsize⟩
    · exact Or.inr ⟨before, after, hsource, hsize⟩

namespace Line

variable {source : String} {line : Line}

/-- A line break at an offset of a line would stand in it. -/
theorem IsOf.not_isBreakAt (hline : line.IsOf 0 source.toList) {offset : Nat}
    (hstart : line.start ≤ offset) (hstop : offset < line.start + byteSize line.text) :
    ¬ IsBreakAt source offset := by
  obtain ⟨before, after, htext, hbefore, hunbroken, -, -⟩ := hline
  rintro hbreak
  obtain ⟨lead, c, rest, hsource, hc, rfl⟩ := isBreakAt_iff.mp hbreak
  have hsize := utf8Size_of_isLineBreak hc
  rw [htext, List.append_assoc] at hsource
  obtain ⟨middle, rfl, hmiddle⟩ := exists_middle_of_append_eq hsource (by omega)
  rw [byteSize_append] at hstart hstop
  rw [List.append_cons] at hmiddle
  obtain ⟨tail, htail, -⟩ := exists_middle_of_append_eq hmiddle.symm (by
    rw [byteSize_append, byteSize_cons, byteSize_nil]
    omega)
  refine hunbroken c ?_ hc
  rw [htail]
  simp

theorem IsOf.isLineAround (hline : line.IsOf 0 source.toList) {offset : Nat}
    (hstart : line.start ≤ offset) (hstop : offset ≤ line.start + byteSize line.text) :
    IsLineAround source offset line.range := by
  have hunbroken : ∀ other, line.start ≤ other → other < line.start + byteSize line.text →
      ¬ IsBreakAt source other := fun other hother hlt ↦ hline.not_isBreakAt hother hlt
  obtain ⟨before, after, htext, hbefore, -, hends, hstarts⟩ := hline
  rw [Nat.zero_add] at hbefore
  have hbehind : line.start + byteSize line.text = byteSize (before ++ line.text) := by
    rw [hbefore, byteSize_append]
  constructor
  case start_boundary =>
    show (⟨line.start⟩ : String.Pos.Raw).IsValid source
    rw [List.append_assoc] at htext
    rw [hbefore]
    exact isValid_byteSize htext
  case stop_boundary =>
    show (⟨line.start + byteSize line.text⟩ : String.Pos.Raw).IsValid source
    rw [hbehind]
    exact isValid_byteSize htext
  case start_le => exact hstart
  case le_stop => exact hstop
  case unbroken => exact hunbroken
  case starts =>
    rcases before.eq_nil_or_concat' with rfl | ⟨lead, c, rfl⟩
    · exact Or.inl hbefore
    · have hc : isLineBreak c := hends c List.getLast?_concat
      refine Or.inr (isBreakAt_iff.mpr ⟨lead, c, line.text ++ after, by simp [htext], hc, ?_⟩)
      show byteSize lead = line.start - 1
      rw [hbefore, byteSize_append, byteSize_cons, utf8Size_of_isLineBreak hc, byteSize_nil]
      omega
  case stops =>
    cases after with
    | nil =>
      rw [List.append_nil] at htext
      exact Or.inl (by rw [← byteSize_toList, htext]; exact hbehind)
    | cons c after =>
      exact Or.inr (isBreakAt_iff.mpr ⟨_, c, after, htext, hstarts c rfl, hbehind.symm⟩)

end Line

/-! ### Cuts of a line -/

/-- A text cannot be cut at a byte offset exactly if no character ends there. -/
theorem splitAtByte?_eq_none_iff {offset : Nat} {text : List Char} :
    splitAtByte? offset text = none ↔
      ¬ (⟨offset⟩ : String.Pos.Raw).IsValid (String.ofList text) := by
  rw [String.Pos.Raw.isValid_iff_exists_append, Option.eq_none_iff_forall_ne_some]
  constructor
  · rintro hnone ⟨before, after, htext, hoffset⟩
    refine hnone (before.toList, after.toList) (splitAtByte?_eq_some_iff.mpr ⟨?_, ?_⟩)
    · rw [← String.toList_append, ← htext, String.toList_ofList]
    · rw [byteSize_toList]
      exact (congrArg String.Pos.Raw.byteIdx hoffset).symm
  · rintro hinvalid ⟨before, after⟩ hsplit
    obtain ⟨rfl, rfl⟩ := splitAtByte?_eq_some_iff.mp hsplit
    refine hinvalid ⟨String.ofList before, String.ofList after, String.ofList_append, ?_⟩
    rw [String.rawEndPos_ofList, utf8Len_eq_byteSize]

/-- Whether a text can be cut within a first part of it does not depend on what stands behind. -/
theorem splitAtByte?_append_eq_none_iff {offset : Nat} {front after : List Char}
    (hle : offset ≤ byteSize front) :
    splitAtByte? offset (front ++ after) = none ↔ splitAtByte? offset front = none := by
  simp only [Option.eq_none_iff_forall_ne_some, Ne, Prod.forall, splitAtByte?_eq_some_iff]
  constructor
  · rintro hnone before rest ⟨rfl, hsize⟩
    exact hnone before (rest ++ after) ⟨(List.append_assoc _ _ _).symm, hsize⟩
  · rintro hnone before rest ⟨htext, hsize⟩
    obtain ⟨middle, rfl, -⟩ := exists_middle_of_append_eq htext (by omega)
    exact hnone before middle ⟨rfl, hsize⟩

/-- There is a part between two offsets unless one of them cuts a character. -/
theorem between?_eq_none_iff {start stop : Nat} {text : List Char} (hle : start ≤ stop) :
    between? start stop text = none ↔
      ¬ ((⟨start⟩ : String.Pos.Raw).IsValid (String.ofList text) ∧
        (⟨stop⟩ : String.Pos.Raw).IsValid (String.ofList text)) := by
  rw [not_and_or, ← splitAtByte?_eq_none_iff, ← splitAtByte?_eq_none_iff, between?]
  cases hstop : splitAtByte? stop text with
  | none => simp
  | some cut =>
    obtain ⟨front, after⟩ := cut
    obtain ⟨rfl, rfl⟩ := splitAtByte?_eq_some_iff.mp hstop
    rw [splitAtByte?_append_eq_none_iff hle]
    simp

end Text

/-! ### Any offsets -/

variable {missing : MissingField} {source : String}

/-- The line of a missing field is the one around its position. -/
theorem MissingField.isLineAround_of_line? {line : Text.Line}
    (hline : missing.line? source = some line) :
    Text.IsLineAround source missing.position line.range ∧
      Text.slice source line.range = String.ofList line.text := by
  obtain ⟨hlineOf, hstart, hstop⟩ := Text.lineAt?_eq_some_iff.mp hline
  refine ⟨hlineOf.isLineAround hstart hstop, ?_⟩
  obtain ⟨before, after, htext, hbefore, -⟩ := hlineOf
  rw [Nat.zero_add] at hbefore
  rw [Text.Line.range, hbefore]
  exact Text.slice_eq_ofList htext

/-- A highlighting comes out whole unless there is no line, or the line is narrow enough and one of
the two offsets of its underlined part cuts a character. -/
theorem MissingField.text?_highlightingBy_eq_none_iff (width : List Char → Nat) :
    (missing.highlightingBy width source).text? = none ↔
      missing.line? source = none ∨ ∃ line, missing.line? source = some line ∧
        width line.text ≤ 60 ∧
        ¬ ((⟨missing.position - line.start⟩ : String.Pos.Raw).IsValid (String.ofList line.text) ∧
          (⟨min (missing.position - line.start + missing.size) (Text.byteSize line.text)⟩ :
            String.Pos.Raw).IsValid (String.ofList line.text)) := by
  cases hline : missing.line? source with
  | none =>
    rw [Writing.text?, highlightingBy, hline, Writing.runOn_bind_of_none rfl]
    simp
  | some line =>
    by_cases hwide : width line.text > maxLineWidth
    · have hnarrow : ¬ width line.text ≤ 60 := Nat.not_le.mpr hwide
      rw [highlightingBy_of_wide width hline hwide, Writing.text?_writeAll]
      simp [hnarrow]
    · have hnarrow : width line.text ≤ 60 := Nat.not_lt.mp hwide
      have hstop := (Text.lineAt?_eq_some_iff.mp hline).2.2
      have hle : (missing.rangeOn line).start ≤ (missing.rangeOn line).stop := by
        dsimp only [rangeOn]
        omega
      cases hcut : Text.between? (missing.rangeOn line).start (missing.rangeOn line).stop
          line.text with
      | none =>
        have hinvalid := (Text.between?_eq_none_iff hle).mp hcut
        exact iff_of_true (text?_highlightingBy_eq_none width hline hwide hcut)
          (Or.inr ⟨line, rfl, hnarrow, hinvalid⟩)
      | some name =>
        obtain ⟨before, hwriting⟩ := exists_fragments_of_between? width hline hwide hcut
        refine iff_of_false ?_ ?_
        · rw [hwriting, Writing.text?_writeAll]
          exact Option.some_ne_none _
        · rintro (hnone | ⟨other, hother, -, hinvalid⟩)
          · contradiction
          · obtain rfl := Option.some.inj hother
            have hnone := (Text.between?_eq_none_iff hle).mpr hinvalid
            rw [hcut] at hnone
            contradiction

/-- For any offsets, those of another source included: there is a line unless the position lies
behind the end of the source, and it is the stretch around the position between two line breaks.
The highlighting breaks off if there is no line, or if the line is narrow enough to be shown and the
underlined part begins or ends within a character. -/
theorem highlighting_breaks_iff (width : List Char → Nat) (missing : MissingField)
    (source : String) :
    (missing.line? source = none ↔ source.utf8ByteSize < missing.position) ∧
      (∀ line ∈ missing.line? source,
        Text.IsLineAround source missing.position line.range ∧
          Text.slice source line.range = String.ofList line.text) ∧
      ((missing.highlightingBy width source).text? = none ↔
        missing.line? source = none ∨ ∃ line ∈ missing.line? source,
          width line.text ≤ 60 ∧
          ¬ ((⟨missing.position - line.range.start⟩ : String.Pos.Raw).IsValid
              (String.ofList line.text) ∧
            (⟨min (missing.position - line.range.start + missing.size)
              (line.range.stop - line.range.start)⟩ : String.Pos.Raw).IsValid
                (String.ofList line.text))) := by
  refine ⟨?_, fun line hline ↦ MissingField.isLineAround_of_line? hline, ?_⟩
  · rw [MissingField.line?, Text.lineAt?_eq_none_iff, Text.byteSize_toList]
  · have hsize (line : Text.Line) : line.range.stop - line.range.start = Text.byteSize line.text :=
      Nat.add_sub_cancel_left _ _
    simp only [hsize]
    exact MissingField.text?_highlightingBy_eq_none_iff width

/-- A position within a character of three bytes, on the second line of a source. -/
theorem highlighting_breaks_iff_within_character :
    (⟨5, 1, "x"⟩ : MissingField).line? "a\né❤b" = some ⟨2, ['é', '❤', 'b']⟩ ∧
      Text.IsLineAround "a\né❤b" 5 ⟨2, 8⟩ ∧ Text.slice "a\né❤b" ⟨2, 8⟩ = "é❤b" ∧
      ((⟨5, 1, "x"⟩ : MissingField).highlightingBy Text.width "a\né❤b").text? = none := by
  obtain ⟨-, hlines, hbreaks⟩ := highlighting_breaks_iff Text.width ⟨5, 1, "x"⟩ "a\né❤b"
  have hline : (⟨5, 1, "x"⟩ : MissingField).line? "a\né❤b" = some ⟨2, ['é', '❤', 'b']⟩ := by decide
  obtain ⟨haround, hslice⟩ := hlines _ hline
  refine ⟨hline, haround, hslice, hbreaks.mpr (Or.inr ⟨_, hline, by decide +kernel, ?_⟩)⟩
  decide

end RecordTemplate
