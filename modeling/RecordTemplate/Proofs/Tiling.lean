import RecordTemplate.Proofs.Bytes
import RecordTemplate.Proofs.Rendering

/-!
The segments of a template and the stretches of its source that they were read from. With the
braces of a reference counted in (`Segment.extent`), the stretches are not empty and stand side by
side from the start of the source to its end (`ByteRange.Tile`). The range of each segment begins
and ends at character boundaries, its text is what stands in that range with the escaping
backslashes taken out, and the range of a reference lies right between two braces
(`Segment.Matches`).
-/

set_option autoImplicit false
set_option relaxedAutoImplicit false

namespace RecordTemplate

/-! ### Extents -/

/-- Ranges that are not empty and stand side by side from one offset up to another. -/
def ByteRange.Tile (start stop : Nat) : List ByteRange → Prop
  | [] => start = stop
  | range :: ranges => range.start = start ∧ range.start < range.stop ∧ Tile range.stop stop ranges

/-- A range contains an offset. -/
def ByteRange.Contains (range : ByteRange) (offset : Nat) : Prop :=
  range.start ≤ offset ∧ offset < range.stop

namespace ByteRange.Tile

variable {start stop : Nat} {ranges : List ByteRange}

theorem start_le_stop (htile : Tile start stop ranges) : start ≤ stop := by
  induction ranges generalizing start with
  | nil => exact Nat.le_of_eq htile
  | cons range ranges ih =>
    obtain ⟨hstart, hlt, hrest⟩ := htile
    have hle := ih hrest
    omega

theorem le_of_mem (htile : Tile start stop ranges) {range : ByteRange} (hrange : range ∈ ranges) :
    start ≤ range.start ∧ range.stop ≤ stop := by
  induction ranges generalizing start with
  | nil => contradiction
  | cons first ranges ih =>
    obtain ⟨hstart, hlt, hrest⟩ := htile
    rcases List.mem_cons.mp hrange with rfl | hmem
    · exact ⟨Nat.le_of_eq hstart.symm, hrest.start_le_stop⟩
    · have hle := ih hrest hmem
      omega

theorem pairwise (htile : Tile start stop ranges) :
    ranges.Pairwise fun first second ↦ first.stop ≤ second.start := by
  induction ranges generalizing start with
  | nil => exact List.Pairwise.nil
  | cons first ranges ih =>
    obtain ⟨-, -, hrest⟩ := htile
    exact List.pairwise_cons.mpr ⟨fun range hrange ↦ (hrest.le_of_mem hrange).1, ih hrest⟩

theorem exists_middle {first second : List ByteRange} (htile : Tile start stop (first ++ second)) :
    ∃ middle, Tile start middle first ∧ Tile middle stop second := by
  induction first generalizing start with
  | nil => exact ⟨start, rfl, htile⟩
  | cons range first ih =>
    obtain ⟨hstart, hlt, hrest⟩ := htile
    obtain ⟨middle, hfirst, hsecond⟩ := ih hrest
    exact ⟨middle, ⟨hstart, hlt, hfirst⟩, hsecond⟩

theorem exists_contains (htile : Tile start stop ranges) {offset : Nat} (hstart : start ≤ offset)
    (hstop : offset < stop) : ∃ range ∈ ranges, range.Contains offset := by
  induction ranges generalizing start with
  | nil =>
    have heq : start = stop := htile
    omega
  | cons first ranges ih =>
    obtain ⟨hfirst, -, hrest⟩ := htile
    by_cases hlt : offset < first.stop
    · exact ⟨first, List.mem_cons_self, by omega, hlt⟩
    · obtain ⟨range, hrange, hcontains⟩ := ih hrest (Nat.le_of_not_lt hlt)
      exact ⟨range, List.mem_cons_of_mem _ hrange, hcontains⟩

theorem contains_first {first : ByteRange} (htile : Tile start stop (first :: ranges)) :
    first.Contains start := by
  obtain ⟨hstart, hlt, -⟩ := htile
  exact ⟨Nat.le_of_eq hstart, hstart ▸ hlt⟩

theorem contains_last {last : ByteRange} (htile : Tile start stop (ranges ++ [last])) :
    last.Contains (stop - 1) := by
  obtain ⟨middle, -, -, hlt, hstop⟩ := htile.exists_middle
  have heq : last.stop = stop := hstop
  exact ⟨by omega, by omega⟩

end ByteRange.Tile

/-- The range of a segment together with the braces of a reference. -/
def Segment.extent (segment : Segment) : ByteRange :=
  if segment.part.isConstant then segment.range
  else ⟨segment.range.start - 1, segment.range.stop + 1⟩

namespace Piece

theorem extent_segment (start : Nat) (piece : Piece) :
    (piece.segment start).extent = ⟨start, start + Text.byteSize piece.source⟩ := by
  cases piece with
  | literal tokens => rfl
  | reference name =>
    have hopening : '{'.utf8Size = 1 := rfl
    have hclosing : '}'.utf8Size = 1 := rfl
    simp only [Segment.extent, segment, Part.isConstant, source, Text.byteSize_cons,
      Text.byteSize_append, Text.byteSize_nil, hopening, hclosing, List.cons_append,
      Bool.false_eq_true, if_false, ByteRange.mk.injEq]
    omega

theorem byteSize_source_pos {piece : Piece} (hfilled : piece.IsFilled) :
    0 < Text.byteSize piece.source := by
  refine Nat.pos_of_ne_zero fun hzero ↦ ?_
  rw [Text.byteSize_eq_zero_iff, source_eq, Token.flatMap_source_eq_nil_iff] at hzero
  cases piece with
  | literal tokens => exact hfilled hzero
  | reference name => contradiction

end Piece

/-- Pieces that are not empty take stretches of the source side by side. -/
theorem tile_extent_ofPieces {pieces : List Piece} (hfilled : ∀ piece ∈ pieces, piece.IsFilled)
    (start : Nat) :
    ByteRange.Tile start (start + Text.byteSize (pieces.flatMap Piece.source))
      ((Segment.ofPieces start pieces).map Segment.extent) := by
  induction pieces generalizing start with
  | nil => rfl
  | cons piece pieces ih =>
    obtain ⟨hpiece, hothers⟩ := List.forall_mem_cons.mp hfilled
    have hrest := ih hothers (start + Text.byteSize piece.source)
    have hpos := Piece.byteSize_source_pos hpiece
    rw [Segment.ofPieces, List.map_cons, Piece.extent_segment, List.flatMap_cons,
      Text.byteSize_append, ← Nat.add_assoc]
    exact ⟨rfl, by simpa using hpos, hrest⟩

/-! ### Ranges and texts -/

/-- A segment as the source has it in the range of the segment. -/
structure Segment.Matches (source : String) (segment : Segment) : Prop where
  start_boundary : (⟨segment.range.start⟩ : String.Pos.Raw).IsValid source
  stop_boundary : (⟨segment.range.stop⟩ : String.Pos.Raw).IsValid source
  text : unescapeBraces (Text.slice source segment.range).toList = segment.part.text.toList
  braces : ¬ segment.part.isConstant → 0 < segment.range.start ∧
    Text.byteAt? source (segment.range.start - 1) = some '{'.toUInt8 ∧
    Text.byteAt? source segment.range.stop = some '}'.toUInt8

/-- The segments of pieces stand where the pieces are written. -/
theorem exists_piece_of_mem_ofPieces {pieces : List Piece} {start : Nat} {segment : Segment}
    (hsegment : segment ∈ Segment.ofPieces start pieces) :
    ∃ before piece after, pieces = before ++ piece :: after ∧
      segment = piece.segment (start + Text.byteSize (before.flatMap Piece.source)) := by
  induction pieces generalizing start with
  | nil => contradiction
  | cons piece pieces ih =>
    rw [Segment.ofPieces] at hsegment
    rcases List.mem_cons.mp hsegment with rfl | hrest
    · exact ⟨[], piece, pieces, rfl, rfl⟩
    · obtain ⟨before, other, after, rfl, rfl⟩ := ih hrest
      refine ⟨piece :: before, other, after, rfl, ?_⟩
      rw [List.flatMap_cons, Text.byteSize_append, Nat.add_assoc]

/-- A stretch of a source that was scanned as the text of a segment. -/
theorem Segment.matches_of_scanned {source : String} {segment : Segment}
    {before after : List Char} {content : List Token}
    (hsource : source.toList = before ++ content.flatMap Token.source ++ after)
    (hscanned : Token.Scanned content)
    (hrange : segment.range = ⟨Text.byteSize before,
      Text.byteSize before + Text.byteSize (content.flatMap Token.source)⟩)
    (htext : segment.part.text.toList = content.map Token.text)
    (hbraces : ¬ segment.part.isConstant → 0 < segment.range.start ∧
      Text.byteAt? source (segment.range.start - 1) = some '{'.toUInt8 ∧
      Text.byteAt? source segment.range.stop = some '}'.toUInt8) :
    segment.Matches source where
  start_boundary := by
    rw [hrange]
    exact Text.isValid_byteSize (hsource.trans (List.append_assoc _ _ _))
  stop_boundary := by
    rw [hrange, ← Text.byteSize_append]
    exact Text.isValid_byteSize hsource
  text := by
    rw [hrange, Text.slice_eq_ofList hsource, String.toList_ofList, htext, ← Token.map_text_scan,
      hscanned.scan_flatMap_source]
  braces := hbraces

/-- A piece gives a segment that matches the source in which the piece is written. -/
theorem Piece.matches_segment {source : String} {piece : Piece} {before after : List Char}
    (hsource : source.toList = before ++ piece.source ++ after)
    (hscanned : Token.Scanned piece.tokens) :
    (piece.segment (Text.byteSize before)).Matches source := by
  have htext := piece.toList_text_part
  rw [← part_segment (Text.byteSize before)] at htext
  cases piece with
  | literal tokens =>
    exact Segment.matches_of_scanned hsource hscanned rfl htext (absurd rfl)
  | reference name =>
    have hopening : '{'.utf8Size = 1 := rfl
    have hclosing : '}'.utf8Size = 1 := rfl
    have hname : source.toList =
        (before ++ ['{']) ++ name.flatMap Token.source ++ ('}' :: after) := by
      simp [hsource, Piece.source]
    have hscannedName : Token.Scanned name := by
      rw [tokens, ← List.singleton_append, List.append_assoc] at hscanned
      exact hscanned.right.left
    have hsize : Text.byteSize (before ++ ['{']) = Text.byteSize before + 1 := by
      rw [Text.byteSize_append, Text.byteSize_cons, hopening, Text.byteSize_nil]
    refine Segment.matches_of_scanned hname hscannedName ?_ htext fun _ ↦ ⟨?_, ?_, ?_⟩
    · rw [hsize]
      rfl
    · exact Nat.succ_pos _
    · rw [Text.byteAt?_eq_some_iff hopening]
      refine ⟨before, name.flatMap Token.source ++ '}' :: after, ?_, rfl⟩
      rw [hname, List.append_assoc, List.append_assoc, List.singleton_append]
    · rw [Text.byteAt?_eq_some_iff hclosing]
      refine ⟨_, after, hname, ?_⟩
      rw [Text.byteSize_append, hsize]
      rfl

/-! ### The segments of a source -/

theorem flatMap_source_ofTokens_scan (source : String) :
    (Piece.ofTokens (Token.scan source.toList)).flatMap Piece.source = source.toList := by
  rw [Piece.flatMap_source_eq, (Piece.reads_ofTokens _).flatMap_tokens, Token.flatMap_source_scan]

theorem matches_of_mem_segments {source : String} {segment : Segment}
    (hsegment : segment ∈ (Template.parse source).segments) : segment.Matches source := by
  rw [Template.segments_parse] at hsegment
  obtain ⟨before, piece, after, hpieces, rfl⟩ := exists_piece_of_mem_ofPieces hsegment
  have hread := (Piece.reads_ofTokens (Token.scan source.toList)).flatMap_tokens
  have hscanned := Token.scanned_scan source.toList
  have hsource := flatMap_source_ofTokens_scan source
  rw [← hread, hpieces, List.flatMap_append, List.flatMap_cons] at hscanned
  rw [hpieces, List.flatMap_append, List.flatMap_cons, ← List.append_assoc] at hsource
  rw [Nat.zero_add]
  exact Piece.matches_segment hsource.symm hscanned.right.left

theorem tile_extent_segments (source : String) :
    ByteRange.Tile 0 source.utf8ByteSize
      ((Template.parse source).segments.map Segment.extent) := by
  have hnormal := (Piece.reads_ofTokens (Token.scan source.toList)).normal
  have htile := tile_extent_ofPieces hnormal.filled 0
  rw [flatMap_source_ofTokens_scan, Text.byteSize_toList, Nat.zero_add] at htile
  rw [Template.segments_parse]
  exact htile

/-- The segments of a template take up its source without a gap and without an overlap, and each of
them is what the source has in its range. -/
theorem segments_tile_source (source : String) :
    ByteRange.Tile 0 source.utf8ByteSize
        ((Template.parse source).segments.map Segment.extent) ∧
      ((Template.parse source).segments = [] ↔ source = "") ∧
      ∀ segment ∈ (Template.parse source).segments, segment.Matches source := by
  refine ⟨tile_extent_segments source, ⟨fun hempty ↦ ?_, ?_⟩, fun _ ↦ matches_of_mem_segments⟩
  · have htile := tile_extent_segments source
    rw [hempty] at htile
    exact String.utf8ByteSize_eq_zero_iff.mp (Eq.symm htile)
  · rintro rfl
    rw [Template.segments_parse]
    rfl

end RecordTemplate
