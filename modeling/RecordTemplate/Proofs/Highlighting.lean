import RecordTemplate.MissingField.Highlighting
import RecordTemplate.Proofs.Evaluation
import RecordTemplate.Proofs.Lines
import RecordTemplate.Proofs.Writing

/-!
The highlighting of a reference that an evaluation blames. A line that can be cut where its carets
begin and end is written as a picture, in the same fragments to every writer
(`MissingField.highlightingBy_of_append`). The offsets of a blamed reference belong to the source,
so every cut that the highlighting makes is at a character boundary, and the highlighting comes out
whole (`highlighting_of_evaluate_error`). It shows the line on which the name starts, between its
brace and the end of the line (`MissingField.OnLine`), and has its carets below that part of the
name: below all of it, or, for a name with a line break in it, below what stands before the first
break. How wide a text is does not matter for this.
-/

set_option autoImplicit false
set_option relaxedAutoImplicit false

namespace RecordTemplate

/-! ### What is written -/

namespace MissingField

/-- A number of spaces, and behind them a number of carets. -/
def marks (spaces carets : Nat) : String :=
  String.ofList (List.replicate spaces ' ') ++ String.ofList (List.replicate carets '^')

/-- What is written for a line that is not too wide, with carets below one part of it. -/
def picture (width : List Char → Nat) (line before name : List Char) : String :=
  "  " ++ String.ofList line ++ "\n" ++ "  " ++ marks (width before) (width name) ++ "\n"

/-- The fragments in which a picture is written. -/
def fragments (width : List Char → Nat) (line before name : List Char) : List String :=
  ["  ", String.ofList line, "\n  ", String.ofList (List.replicate (width before) ' '),
    String.ofList (List.replicate (width name) '^'), "\n"]

theorem join_fragments (width : List Char → Nat) (line before name : List Char) :
    String.join (fragments width line before name) = picture width line before name := by
  simp [fragments, picture, marks, String.join_cons, String.append_assoc]

section Write

open Writing

variable {σ : Type} [Writer σ] (width : List Char → Nat) {missing : MissingField}
  {source : String} {line : Text.Line} {before name after : List Char}

theorem writeUnderline_append :
    (writeUnderline width (before ++ name ++ after)
      ⟨Text.byteSize before, Text.byteSize before + Text.byteSize name⟩ : Writing σ Unit) =
      writeAll [String.ofList (List.replicate (width before) ' '),
        String.ofList (List.replicate (width name) '^')] := by
  have hbefore : Text.between? 0 (Text.byteSize before) (before ++ name ++ after) = some before :=
    Text.between?_eq_some_iff.mpr ⟨[], name ++ after, by simp, rfl, by simp⟩
  have hname : Text.between? (Text.byteSize before) (Text.byteSize before + Text.byteSize name)
      (before ++ name ++ after) = some name :=
    Text.between?_eq_some_iff.mpr ⟨before, after, rfl, rfl, rfl⟩
  rw [writeUnderline, hbefore, hname, demand_some_bind, demand_some_bind, writeAll_cons,
    writeAll_singleton]

theorem runOn_writeUnderline_eq_none {text : List Char} {range : ByteRange}
    (hcut : Text.between? range.start range.stop text = none) (writer : σ) :
    (writeUnderline width text range).runOn writer = none := by
  rw [writeUnderline, hcut]
  cases hbefore : Text.between? 0 range.start text with
  | none => exact runOn_bind_of_none rfl _
  | some before =>
    rw [demand_some_bind]
    exact runOn_bind_of_none rfl _

theorem highlightingBy_of_wide (hline : missing.line? source = some line)
    (hwide : width line.text > maxLineWidth) :
    (missing.highlightingBy width source : Writing σ Unit) = writeAll [] := by
  rw [highlightingBy, hline, demand_some_bind, if_pos hwide]
  rfl

/-- A line that is not too wide and can be cut is written as a picture. -/
theorem highlightingBy_of_append (hline : missing.line? source = some line)
    (hwide : ¬ width line.text > maxLineWidth) (htext : line.text = before ++ name ++ after)
    (hrange : missing.rangeOn line =
      ⟨Text.byteSize before, Text.byteSize before + Text.byteSize name⟩) :
    (missing.highlightingBy width source : Writing σ Unit) =
      writeAll (fragments width line.text before name) := by
  rw [highlightingBy, hline, demand_some_bind, if_neg hwide, hrange, htext,
    writeUnderline_append]
  simp only [← writeAll_singleton, ← writeAll_append]
  rfl

theorem exists_fragments_of_between? (hline : missing.line? source = some line)
    (hwide : ¬ width line.text > maxLineWidth)
    (hname : Text.between? (missing.rangeOn line).start (missing.rangeOn line).stop line.text =
      some name) :
    ∃ before, ∀ (σ : Type) [Writer σ], (missing.highlightingBy width source : Writing σ Unit) =
      writeAll (fragments width line.text before name) := by
  obtain ⟨before, after, htext, hstart, hstop⟩ := Text.between?_eq_some_iff.mp hname
  have hrange : missing.rangeOn line =
      ⟨Text.byteSize before, Text.byteSize before + Text.byteSize name⟩ := by
    rw [hstop, hstart]
  exact ⟨before, fun σ _ ↦ highlightingBy_of_append width hline hwide htext hrange⟩

/-- A line that is not too wide and cannot be cut is written all the same, and then the
highlighting aborts. -/
theorem text?_highlightingBy_eq_none (hline : missing.line? source = some line)
    (hwide : ¬ width line.text > maxLineWidth)
    (hcut : Text.between? (missing.rangeOn line).start (missing.rangeOn line).stop line.text =
      none) :
    (missing.highlightingBy width source).text? = none := by
  have hwrite (fragment text : String) :
      (write fragment).runOn text = some (.ok (), text ++ fragment) := rfl
  rw [text?, highlightingBy, hline, demand_some_bind, if_neg hwide, runOn_bind_of_ok (hwrite _ _),
    runOn_bind_of_ok (hwrite _ _), runOn_bind_of_ok (hwrite _ _),
    runOn_bind_of_none (runOn_writeUnderline_eq_none width hcut _)]
  rfl

/-- The highlighting of a name between two parts of a line. -/
theorem text?_highlightingBy_of_append (hline : missing.line? source = some line)
    (htext : line.text = before ++ name ++ after)
    (hrange : missing.rangeOn line =
      ⟨Text.byteSize before, Text.byteSize before + Text.byteSize name⟩) :
    (missing.highlightingBy width source).text? =
      some (if width line.text > maxLineWidth then "" else
        picture width line.text before name) := by
  by_cases hwide : width line.text > maxLineWidth
  · rw [if_pos hwide, highlightingBy_of_wide width hline hwide, text?_writeAll, String.join_nil]
  · rw [if_neg hwide, highlightingBy_of_append width hline hwide htext hrange, text?_writeAll,
      join_fragments]

end Write

/-! ### The line of a name -/

/-- The name of a reference as the template source has it, escapes included. -/
def rawName (missing : MissingField) (source : String) : List Char :=
  (Text.slice source missing.range).toList

/-- A line of a source on which the name of a reference starts. The name comes right behind the
brace at the end of `before`, and `after` is what the line has behind the name: the closing brace
and more, or nothing if a line break in the name ends the line. -/
structure OnLine (missing : MissingField) (source : String) (line : Text.Line)
    (before after : List Char) : Prop where
  isOf : line.IsOf 0 source.toList
  text : line.text = before ++ Text.firstLine (missing.rawName source) ++ after
  position : missing.position = line.start + Text.byteSize before
  opening : before.getLast? = some '{'
  closing : if Text.IsUnbroken (missing.rawName source) then after.head? = some '}' else after = []

end MissingField

/-- A reference among the segments of a source, as it is written. -/
theorem exists_source_of_reference {source name : String} {range : ByteRange}
    (hsegment : ⟨.reference name, range⟩ ∈ (Template.parse source).segments) :
    ∃ lead raw tail, source.toList = lead ++ '{' :: (raw ++ '}' :: tail) ∧
      range = ⟨Text.byteSize lead + 1, Text.byteSize lead + 1 + Text.byteSize raw⟩ := by
  rw [Template.segments_parse] at hsegment
  obtain ⟨before, piece, after, hpieces, hpiece⟩ := exists_piece_of_mem_ofPieces hsegment
  have hsource := flatMap_source_ofTokens_scan source
  rw [hpieces, List.flatMap_append, List.flatMap_cons] at hsource
  cases piece with
  | literal tokens =>
    have hpart := congrArg Segment.part hpiece
    contradiction
  | reference raw =>
    refine ⟨before.flatMap Piece.source, raw.flatMap Token.source, after.flatMap Piece.source, ?_,
      ?_⟩
    · rw [← hsource]
      simp [Piece.source]
    · have hrange := congrArg Segment.range hpiece
      rw [Nat.zero_add] at hrange
      exact hrange

namespace MissingField

variable {missing : MissingField} {source : String}

theorem IsFirst.exists_source {record : Record} (hfirst : missing.IsFirst source record) :
    ∃ lead tail, source.toList = lead ++ '{' :: (missing.rawName source ++ '}' :: tail) ∧
      missing.position = Text.byteSize lead + 1 ∧
      missing.size = Text.byteSize (missing.rawName source) := by
  obtain ⟨lead, raw, tail, hsource, hrange⟩ := exists_source_of_reference hfirst.is_reference
  obtain ⟨hstart, hstop⟩ := ByteRange.mk.inj hrange
  have hraw : missing.rawName source = raw := by
    have hcut : source.toList = (lead ++ ['{']) ++ raw ++ '}' :: tail := by simp [hsource]
    have hslice := Text.slice_eq_ofList hcut
    have hopening : '{'.utf8Size = 1 := rfl
    rw [Text.byteSize_append, Text.byteSize_cons, hopening, Text.byteSize_nil, ← hrange] at hslice
    rw [rawName, hslice, String.toList_ofList]
  rw [hraw]
  exact ⟨lead, tail, hsource, hstart, by omega⟩

/-- What is left of a line behind the part of a name that stands on it. -/
theorem exists_firstLine_name (name tail : List Char) :
    ∃ after, Text.firstLine (name ++ '}' :: tail) = Text.firstLine name ++ after ∧
      if Text.IsUnbroken name then after.head? = some '}' else after = [] := by
  by_cases hname : Text.IsUnbroken name
  · have hbrace : Text.IsUnbroken ['}'] := by decide
    refine ⟨'}' :: Text.firstLine tail, ?_, by rw [if_pos hname]; rfl⟩
    rw [Text.firstLine_append hname, Text.firstLine_of_isUnbroken hname, ← List.singleton_append,
      Text.firstLine_append hbrace, List.singleton_append]
  · refine ⟨[], ?_, by rw [if_neg hname]⟩
    rw [Text.firstLine_append_of_not_isUnbroken hname, List.append_nil]

/-- The line of a reference that an evaluation blames. -/
theorem IsFirst.exists_onLine {record : Record} (hfirst : missing.IsFirst source record) :
    ∃ line before after, missing.line? source = some line ∧
      missing.OnLine source line before after := by
  obtain ⟨lead, tail, hsource, hposition, -⟩ := hfirst.exists_source
  -- the line begins behind the last break in front of the reference
  obtain ⟨passed, begun, rfl, hpassed, hbegun⟩ := Text.exists_append_lastLine lead
  -- and ends at the first break behind its opening brace
  obtain ⟨rest, hrest, hbreak⟩ :=
    Text.exists_firstLine_append (missing.rawName source ++ '}' :: tail)
  obtain ⟨after, hafter, hclosing⟩ := exists_firstLine_name (missing.rawName source) tail
  have hbrace : Text.IsUnbroken ['{'] := by decide
  have hsize : '{'.utf8Size = 1 := rfl
  have hbehind := Text.isUnbroken_firstLine (missing.rawName source ++ '}' :: tail)
  rw [hafter] at hrest hbehind
  have hlineOf : (Text.Line.mk (Text.byteSize passed)
      (begun ++ ['{'] ++ Text.firstLine (missing.rawName source) ++ after)).IsOf 0
        source.toList := by
    refine ⟨passed, rest, ?_, (Nat.zero_add _).symm, ?_, hpassed, hbreak⟩
    · rw [hsource, hrest]
      simp
    · rw [List.append_assoc]
      have hbefore := Text.isUnbroken_append_iff.mpr ⟨hbegun, hbrace⟩
      exact Text.isUnbroken_append_iff.mpr ⟨hbefore, hbehind⟩
  have hstart : missing.position = Text.byteSize passed + Text.byteSize (begun ++ ['{']) := by
    rw [hposition, Text.byteSize_append, Text.byteSize_append, Text.byteSize_cons, hsize,
      Text.byteSize_nil]
    omega
  refine ⟨_, begun ++ ['{'], after, ?_, hlineOf, rfl, hstart, ?_, hclosing⟩
  · refine Text.lineAt?_eq_some_iff.mpr ⟨hlineOf, ?_, ?_⟩
    · rw [hstart]
      exact Nat.le_add_right _ _
    · dsimp only
      rw [hstart, List.append_assoc, Text.byteSize_append _ (_ ++ _)]
      omega
  · exact List.getLast?_concat

/-- The underlined part ends where the name ends or where the line ends. -/
theorem OnLine.rangeOn_eq {line : Text.Line} {before after : List Char}
    (hline : missing.OnLine source line before after)
    (hsize : missing.size = Text.byteSize (missing.rawName source)) :
    missing.rangeOn line = ⟨Text.byteSize before,
      Text.byteSize before + Text.byteSize (Text.firstLine (missing.rawName source))⟩ := by
  have hstart : missing.position - line.start = Text.byteSize before := by
    rw [hline.position, Nat.add_sub_cancel_left]
  rw [rangeOn, hstart, ByteRange.mk.injEq]
  refine ⟨rfl, ?_⟩
  obtain ⟨rest, hrest, -⟩ := Text.exists_firstLine_append (missing.rawName source)
  have hclosing := hline.closing
  rw [hsize, hline.text, Text.byteSize_append, Text.byteSize_append]
  by_cases hname : Text.IsUnbroken (missing.rawName source)
  · rw [Text.firstLine_of_isUnbroken hname]
    omega
  · rw [if_neg hname] at hclosing
    have hle := congrArg Text.byteSize hrest
    rw [Text.byteSize_append] at hle
    rw [hclosing, Text.byteSize_nil]
    omega

end MissingField

/-- An evaluation error can be shown in its source: there is a line with the name on it, and the
highlighting is that line with carets below the name, or nothing if the line is too wide. -/
theorem highlighting_of_evaluate_error (width : List Char → Nat) {source : String}
    {record : Record} {encoding : Encoding} {missing : MissingField}
    (herror : (Template.parse source).evaluate record encoding = .error missing) :
    ∃ line before after, missing.line? source = some line ∧
      missing.OnLine source line before after ∧
      (missing.highlightingBy width source).text? =
        some (if width line.text > 60 then "" else
          MissingField.picture width line.text before
            (Text.firstLine (missing.rawName source))) := by
  have hfirst := evaluate_parse_eq_error_iff.mp herror
  obtain ⟨-, -, -, -, hsize⟩ := hfirst.exists_source
  obtain ⟨line, before, after, hline, honLine⟩ := hfirst.exists_onLine
  refine ⟨line, before, after, hline, honLine, ?_⟩
  exact MissingField.text?_highlightingBy_of_append width hline honLine.text
    (honLine.rangeOn_eq hsize)

/-- A name with a line break, on the second line of a source: the part before it is underlined. -/
theorem highlighting_of_evaluate_error_broken_name :
    (Template.parse "\x7ba\x7d\rx \x7bb\nc\x7d").evaluate (Record.ofPairs [("a", "1")]) .raw =
        .error ⟨7, 3, "b\nc"⟩ ∧
      (⟨7, 3, "b\nc"⟩ : MissingField).line? "\x7ba\x7d\rx \x7bb\nc\x7d" =
        some ⟨4, ['x', ' ', '\x7b', 'b']⟩ ∧
      (⟨7, 3, "b\nc"⟩ : MissingField).OnLine "\x7ba\x7d\rx \x7bb\nc\x7d"
        ⟨4, ['x', ' ', '\x7b', 'b']⟩ ['x', ' ', '\x7b'] [] ∧
      ((⟨7, 3, "b\nc"⟩ : MissingField).highlightingBy Text.width
        "\x7ba\x7d\rx \x7bb\nc\x7d").text? = some "  x \x7bb\n     ^\n" := by
  have herror : (Template.parse "\x7ba\x7d\rx \x7bb\nc\x7d").evaluate
      (Record.ofPairs [("a", "1")]) .raw = .error ⟨7, 3, "b\nc"⟩ := by
    decide +kernel
  have hline : (⟨7, 3, "b\nc"⟩ : MissingField).line? "\x7ba\x7d\rx \x7bb\nc\x7d" =
      some ⟨4, ['x', ' ', '\x7b', 'b']⟩ := by
    decide
  have hname : (⟨7, 3, "b\nc"⟩ : MissingField).rawName "\x7ba\x7d\rx \x7bb\nc\x7d" =
      ['b', '\n', 'c'] := by
    decide
  obtain ⟨line, before, after, hfound, honLine, htext⟩ :=
    highlighting_of_evaluate_error Text.width herror
  obtain rfl : ⟨4, ['x', ' ', '\x7b', 'b']⟩ = line := Option.some.inj (hline.symm.trans hfound)
  obtain rfl : after = [] := by
    have hclosing := honLine.closing
    rwa [hname, if_neg (by decide)] at hclosing
  obtain rfl : ['x', ' ', '\x7b'] = before := by
    have htextOf := honLine.text
    rw [hname, List.append_nil] at htextOf
    have hparts : ['x', ' ', '\x7b'] ++ ['b'] = before ++ ['b'] := htextOf
    exact (List.append_left_inj ['b']).mp hparts
  refine ⟨herror, hline, honLine, htext.trans ?_⟩
  rw [hname]
  decide +kernel

end RecordTemplate
