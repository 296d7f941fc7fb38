import RecordTemplate.Proofs.Grammar

/-!
What rendering adds to a source. A bare brace that delimits no reference is stray (`IsStray`): it is
read as literal text, and the rendering escapes it. All else is written back as it stood in the
source, each escaped brace with its one backslash and every run of backslashes in full. So the
rendering is the source with a backslash in front of each stray brace, and it is the source itself
exactly if no brace is stray (`render_parse_eq_insertBackslashes`).

The source is compared with the rendering piece by piece. Within a name or a constant there are no
delimiters (`not_isDelimiter_of_contains`), so the stray braces there are the bare ones
(`insertBackslashes_content`).
-/

set_option autoImplicit false
set_option relaxedAutoImplicit false

namespace RecordTemplate

open Token

/-! ### Stray braces -/

/-- A reference of a source starts or ends with the byte at an offset. -/
def IsDelimiter (source : String) (offset : Nat) : Prop :=
  ∃ range ∈ Segment.references (Template.parse source).segments,
    offset + 1 = range.start ∨ offset = range.stop

/-- A bare brace that delimits no reference stands at an offset. -/
def IsStray (source : String) (offset : Nat) : Prop :=
  (∃ brace, IsBare source brace offset) ∧ ¬ IsDelimiter source offset

instance (source : String) (offset : Nat) : Decidable (IsDelimiter source offset) :=
  List.decidableBEx (fun range : ByteRange ↦ offset + 1 = range.start ∨ offset = range.stop)
    (Segment.references (Template.parse source).segments)

instance (source : String) (offset : Nat) : Decidable (IsStray source offset) :=
  decidable_of_iff ((IsBare source .opening offset ∨ IsBare source .closing offset) ∧
      ¬ IsDelimiter source offset) <| by
    refine and_congr_left fun _ ↦ ⟨?_, ?_⟩
    · rintro (hbare | hbare)
      · exact ⟨_, hbare⟩
      · exact ⟨_, hbare⟩
    · rintro ⟨brace, hbare⟩
      cases brace with
      | opening => exact Or.inl hbare
      | closing => exact Or.inr hbare

/-! ### Inserted backslashes -/

namespace Text

/-- A text that starts at an offset, with a backslash in front of each character at a marked
offset. -/
def insertBackslashes (marked : Nat → Prop) [DecidablePred marked] (offset : Nat) :
    List Char → List Char
  | [] => []
  | c :: text =>
    let rest := c :: insertBackslashes marked (offset + c.utf8Size) text
    if marked offset then '\\' :: rest else rest

variable {marked : Nat → Prop} [DecidablePred marked] {offset : Nat}

theorem insertBackslashes_cons_of_marked (hmarked : marked offset) (c : Char) (text : List Char) :
    insertBackslashes marked offset (c :: text) =
      '\\' :: c :: insertBackslashes marked (offset + c.utf8Size) text :=
  if_pos hmarked

theorem insertBackslashes_cons_of_not_marked (hmarked : ¬ marked offset) (c : Char)
    (text : List Char) : insertBackslashes marked offset (c :: text) =
      c :: insertBackslashes marked (offset + c.utf8Size) text :=
  if_neg hmarked

theorem length_le_insertBackslashes (offset : Nat) (text : List Char) :
    text.length ≤ (insertBackslashes marked offset text).length := by
  induction text generalizing offset with
  | nil => exact Nat.le_refl _
  | cons c text ih =>
    have hrest := ih (offset + c.utf8Size)
    by_cases hmarked : marked offset
    · rw [insertBackslashes_cons_of_marked hmarked]
      simp only [List.length_cons]
      omega
    · rw [insertBackslashes_cons_of_not_marked hmarked]
      exact Nat.succ_le_succ hrest

/-- A text stays as it is exactly if no character of it is marked. -/
theorem insertBackslashes_eq_self_iff {text : List Char} :
    insertBackslashes marked offset text = text ↔
      ∀ before c after, text = before ++ c :: after → ¬ marked (offset + byteSize before) := by
  induction text generalizing offset with
  | nil => simp [insertBackslashes]
  | cons c text ih =>
    by_cases hmarked : marked offset
    · rw [insertBackslashes_cons_of_marked hmarked]
      constructor
      · intro heq
        have hrest : text.length ≤
            (insertBackslashes marked (offset + c.utf8Size) text).length :=
          length_le_insertBackslashes _ text
        have hlengths := congrArg List.length heq
        simp only [List.length_cons] at hlengths
        omega
      · exact fun hnone ↦ absurd hmarked (hnone [] c text rfl)
    · rw [insertBackslashes_cons_of_not_marked hmarked, List.cons.injEq, ih]
      constructor
      · rintro ⟨-, hrest⟩ before d after htext
        cases before with
        | nil => exact hmarked
        | cons first before =>
          rw [List.cons_append, List.cons.injEq] at htext
          rw [byteSize_cons, ← htext.1, ← Nat.add_assoc]
          exact hrest before d after htext.2
      · intro hnone
        refine ⟨rfl, fun before d after htext ↦ ?_⟩
        rw [Nat.add_assoc, ← byteSize_cons]
        exact hnone (c :: before) d after (congrArg (c :: ·) htext)

end Text

/-! ### Bare braces among tokens -/

variable {source : String}

/-- A brace at the place of a token is bare exactly if the token is. -/
theorem isBare_writtenSize_iff {passed rest : List Token} {token : Token}
    (hscan : scan source.toList = passed ++ token :: rest) {brace : Brace} :
    IsBare source brace (writtenSize passed) ↔ token = bare brace := by
  rw [isBare_iff]
  constructor
  · rintro ⟨before, after, hbefore, hsize⟩
    obtain ⟨middle, hpassed, htail⟩ :=
      exists_middle_of_append_eq (hbefore.symm.trans hscan) (Nat.le_of_eq hsize)
    rw [hpassed, writtenSize_append] at hsize
    have hmiddle : middle = [] := writtenSize_eq_zero_iff.mp (by omega)
    rw [hmiddle, List.nil_append, List.cons.injEq] at htail
    exact htail.1.symm
  · rintro rfl
    exact ⟨passed, rest, hscan, rfl⟩

/-- The brace of an escaped token has its backslash right before it. -/
theorem not_isBare_of_escaped {passed rest : List Token} {escapedBrace : Brace}
    (hscan : scan source.toList = passed ++ escaped escapedBrace :: rest) (brace : Brace) :
    ¬ IsBare source brace (writtenSize passed + 1) := by
  have hsource : source.toList = (passed.flatMap Token.source ++ ['\\']) ++
      escapedBrace.char :: rest.flatMap Token.source := by
    rw [← flatMap_source_scan source.toList, hscan]
    simp [Token.source]
  have hescaped := (isEscaped_byteSize_iff hsource).mpr List.getLast?_concat
  rw [Text.byteSize_append] at hescaped
  exact fun hbare ↦ hbare.2 hescaped

/-! ### Delimiters and segments -/

/-- Segments that share an offset, the braces of references counted in, are the same. -/
theorem eq_of_contains_extent {segment other : Segment}
    (hsegment : segment ∈ (Template.parse source).segments)
    (hother : other ∈ (Template.parse source).segments) {offset : Nat}
    (hoffset : segment.extent.Contains offset) (hoffsetOther : other.extent.Contains offset) :
    segment = other := by
  have hordered := List.pairwise_map.mp (tile_extent_segments source).pairwise
  have hapart (first second : Segment) (hle : first.extent.stop ≤ second.extent.start)
      (hfirst : first.extent.Contains offset) : ¬ second.extent.Contains offset := by
    rintro ⟨hstart, -⟩
    obtain ⟨-, hstop⟩ := hfirst
    omega
  refine List.Pairwise.forall_of_forall_of_flip
    (R := fun first second ↦
      first.extent.Contains offset → second.extent.Contains offset → first = second)
    (fun _ _ _ _ ↦ rfl) (hordered.imp fun hle hfirst hsecond ↦ ?_)
    (hordered.imp fun hle hsecond hfirst ↦ ?_) hsegment hother hoffset hoffsetOther
  · exact absurd hsecond (hapart _ _ hle hfirst)
  · exact absurd hsecond (hapart _ _ hle hfirst)

/-- No name and no constant has a delimiter in it. -/
theorem not_isDelimiter_of_contains {segment : Segment}
    (hsegment : segment ∈ (Template.parse source).segments) {offset : Nat}
    (hoffset : segment.range.Contains offset) : ¬ IsDelimiter source offset := by
  rintro ⟨range, hrange, hdelimiter⟩
  obtain ⟨other, hother, hreference, rfl⟩ := mem_references_iff.mp hrange
  have hextent : other.extent = ⟨other.range.start - 1, other.range.stop + 1⟩ := if_neg hreference
  have hlt := (isSegmentation_segments source).start_lt_stop (references_segments source) hother
  have hpos := ((matches_of_mem_segments hother).braces hreference).1
  have hcontains : other.extent.Contains offset := by
    rw [hextent, ByteRange.Contains]
    dsimp only
    omega
  have hle := segment.range_le_extent
  obtain ⟨hstart, hstop⟩ := hoffset
  obtain rfl := eq_of_contains_extent hsegment hother ⟨by omega, by omega⟩ hcontains
  omega

/-! ### Texts of segments -/

/-- A token of literal text gets a backslash exactly if it is a bare brace. -/
theorem insertBackslashes_token {passed rest : List Token} {token : Token}
    (hscan : scan source.toList = passed ++ token :: rest)
    (hliteral : ¬ IsDelimiter source (writtenSize passed)) (behind : List Char) :
    Text.insertBackslashes (IsStray source) (writtenSize passed) (token.source ++ behind) =
      (literal token.text).source ++
        Text.insertBackslashes (IsStray source) (writtenSize (passed ++ [token])) behind := by
  have hstray : IsStray source (writtenSize passed) ↔ ∃ brace, token = bare brace := by
    simp only [IsStray, isBare_writtenSize_iff hscan, hliteral, not_false_eq_true, and_true]
  cases token with
  | plain c =>
    have hc : Brace.ofChar? c = none :=
      (scanned_scan source.toList).plain_ne_brace c (by rw [hscan]; simp)
    have hnot : ¬ IsStray source (writtenSize passed) := by
      rw [hstray]
      simp
    rw [Token.source, List.singleton_append, Text.insertBackslashes_cons_of_not_marked hnot]
    simp [Token.text, literal, hc, Token.source, writtenSize]
  | escaped brace =>
    -- neither the backslash nor the brace right behind it is a bare brace
    have hnot : ¬ IsStray source (writtenSize passed) := by
      rw [hstray]
      simp
    have hnext : ¬ IsStray source (writtenSize passed + 1) := by
      rintro ⟨⟨other, hbare⟩, -⟩
      exact not_isBare_of_escaped hscan other hbare
    have hsize : '\\'.utf8Size = 1 := rfl
    rw [Token.source, List.cons_append, List.singleton_append,
      Text.insertBackslashes_cons_of_not_marked hnot, hsize,
      Text.insertBackslashes_cons_of_not_marked hnext]
    simp [Token.text, literal, Token.source, writtenSize, hsize, Nat.add_assoc]
  | bare brace =>
    rw [Token.source, List.singleton_append,
      Text.insertBackslashes_cons_of_marked (hstray.mpr ⟨brace, rfl⟩)]
    simp [Token.text, literal, Token.source, writtenSize]

/-- In a stretch without delimiters, a backslash comes in front of each bare brace. -/
theorem insertBackslashes_content {passed content rest : List Token}
    (hscan : scan source.toList = passed ++ (content ++ rest))
    (hliteral : ∀ offset, writtenSize passed ≤ offset →
      offset < writtenSize passed + writtenSize content → ¬ IsDelimiter source offset)
    (behind : List Char) :
    Text.insertBackslashes (IsStray source) (writtenSize passed)
        (content.flatMap Token.source ++ behind) =
      escapeBraces (content.map Token.text) ++
        Text.insertBackslashes (IsStray source) (writtenSize (passed ++ content)) behind := by
  rw [← flatMap_source_map_literal]
  induction content generalizing passed with
  | nil => simp
  | cons token content ih =>
    have hpassed : scan source.toList = (passed ++ [token]) ++ (content ++ rest) := by
      rw [hscan, List.append_assoc, List.singleton_append, List.cons_append]
    have hsize : writtenSize (token :: content) = writtenSize [token] + writtenSize content :=
      writtenSize_append [token] content
    have hpos : writtenSize [token] ≠ 0 := mt writtenSize_eq_zero_iff.mp (List.cons_ne_nil _ _)
    have hrest := ih hpassed fun offset hle hlt ↦ by
      rw [writtenSize_append] at hle hlt
      exact hliteral offset (by omega) (by omega)
    rw [List.flatMap_cons, List.append_assoc,
      insertBackslashes_token hscan (hliteral _ (Nat.le_refl _) (by omega)), hrest,
      List.append_assoc passed, List.singleton_append, List.map_cons, List.map_cons,
      List.flatMap_cons, List.append_assoc]

/-! ### Pieces -/

theorem segment_mem_ofPieces (start : Nat) (before : List Piece) (piece : Piece)
    (after : List Piece) :
    piece.segment (start + Text.byteSize (before.flatMap Piece.source)) ∈
      Segment.ofPieces start (before ++ piece :: after) := by
  induction before generalizing start with
  | nil => exact List.mem_cons_self
  | cons first before ih =>
    rw [List.flatMap_cons, Text.byteSize_append, ← Nat.add_assoc]
    exact List.mem_cons_of_mem _ (ih (start + Text.byteSize first.source))

section

variable {before after : List Piece} {piece : Piece}

theorem segment_mem_segments
    (hpieces : Piece.ofTokens (scan source.toList) = before ++ piece :: after) :
    piece.segment (writtenSize (before.flatMap Piece.tokens)) ∈
      (Template.parse source).segments := by
  have hmem := segment_mem_ofPieces 0 before piece after
  rw [Nat.zero_add, Piece.flatMap_source_eq, ← hpieces] at hmem
  rw [Template.segments_parse]
  exact hmem

theorem scan_eq_of_ofTokens_eq
    (hpieces : Piece.ofTokens (scan source.toList) = before ++ piece :: after) :
    scan source.toList =
      before.flatMap Piece.tokens ++ (piece.tokens ++ after.flatMap Piece.tokens) := by
  have hread := (Piece.reads_ofTokens (scan source.toList)).flatMap_tokens
  rw [hpieces, List.flatMap_append, List.flatMap_cons] at hread
  exact hread.symm

end

theorem insertBackslashes_delimiter {offset : Nat} (hdelimiter : IsDelimiter source offset)
    (brace : Brace) (behind : List Char) :
    Text.insertBackslashes (IsStray source) offset (brace.char :: behind) =
      brace.char :: Text.insertBackslashes (IsStray source) (offset + 1) behind := by
  rw [Text.insertBackslashes_cons_of_not_marked fun hstray ↦ hstray.2 hdelimiter,
    brace.utf8Size_char]

/-- The braces of a reference stay as they are, and those of its name get their backslashes. -/
theorem insertBackslashes_reference {passed name rest : List Token}
    (hscan : scan source.toList = passed ++ ((Piece.reference name).tokens ++ rest))
    (hsegment : (Piece.reference name).segment (writtenSize passed) ∈
      (Template.parse source).segments) (behind : List Char) :
    Text.insertBackslashes (IsStray source) (writtenSize passed)
        ((Piece.reference name).source ++ behind) =
      (Piece.reference name).part.renderChars ++ Text.insertBackslashes (IsStray source)
        (writtenSize (passed ++ (Piece.reference name).tokens)) behind := by
  have hdelimiter {offset : Nat} (hoffset : offset + 1 = writtenSize passed + 1 ∨
      offset = writtenSize passed + 1 + writtenSize name) : IsDelimiter source offset :=
    ⟨_, mem_references_iff.mpr ⟨_, hsegment, Bool.false_ne_true, rfl⟩, hoffset⟩
  have hname : scan source.toList =
      (passed ++ [bare .opening]) ++ (name ++ bare .closing :: rest) := by
    rw [hscan, Piece.tokens_reference_append, List.append_assoc, List.singleton_append]
  have hopening : writtenSize (passed ++ [bare .opening]) = writtenSize passed + 1 := by
    rw [writtenSize_append, writtenSize_cons_bare, writtenSize_nil]
  have hclosing : writtenSize (passed ++ [bare .opening] ++ name) =
      writtenSize passed + 1 + writtenSize name := by
    rw [writtenSize_append, hopening]
  have hbehind : writtenSize (passed ++ (Piece.reference name).tokens) =
      writtenSize passed + 1 + writtenSize name + 1 := by
    simp [Piece.tokens, Nat.add_assoc]
  have hcontent := insertBackslashes_content hname (fun offset hle hlt ↦ by
    rw [hopening] at hle hlt
    exact not_isDelimiter_of_contains hsegment ⟨hle, hlt⟩) (Brace.closing.char :: behind)
  rw [hopening, hclosing, insertBackslashes_delimiter (hdelimiter (Or.inr rfl))] at hcontent
  have hsource : (Piece.reference name).source ++ behind =
      Brace.opening.char :: (name.flatMap Token.source ++ Brace.closing.char :: behind) := by
    simp [Piece.source, Brace.char]
  rw [hsource, insertBackslashes_delimiter (hdelimiter (Or.inl rfl)), hcontent, hbehind,
    Piece.part, Part.renderChars, String.toList_ofList]
  simp [Brace.char]

/-- What a piece becomes with its backslashes is what its part is rendered as. -/
theorem insertBackslashes_piece {before after : List Piece} {piece : Piece}
    (hpieces : Piece.ofTokens (scan source.toList) = before ++ piece :: after)
    (behind : List Char) :
    Text.insertBackslashes (IsStray source) (writtenSize (before.flatMap Piece.tokens))
        (piece.source ++ behind) =
      piece.part.renderChars ++ Text.insertBackslashes (IsStray source)
        (writtenSize ((before ++ [piece]).flatMap Piece.tokens)) behind := by
  have hscan := scan_eq_of_ofTokens_eq hpieces
  have hsegment := segment_mem_segments hpieces
  rw [List.flatMap_append, List.flatMap_singleton]
  cases piece with
  | literal content =>
    have hcontent := insertBackslashes_content hscan
      (fun offset hle hlt ↦ not_isDelimiter_of_contains hsegment ⟨hle, hlt⟩) behind
    rw [Piece.part, Part.renderChars, String.toList_ofList]
    exact hcontent
  | reference name => exact insertBackslashes_reference hscan hsegment behind

/-! ### Renderings of sources -/

/-- The induction is on the pieces to come, with those that were passed as a parameter. -/
theorem insertBackslashes_pieces {before pieces : List Piece}
    (hpieces : Piece.ofTokens (scan source.toList) = before ++ pieces) :
    Text.insertBackslashes (IsStray source) (writtenSize (before.flatMap Piece.tokens))
        (pieces.flatMap Piece.source) = (pieces.map Piece.part).flatMap Part.renderChars := by
  induction pieces generalizing before with
  | nil => rfl
  | cons piece pieces ih =>
    have hpassed : Piece.ofTokens (scan source.toList) = (before ++ [piece]) ++ pieces := by
      rw [hpieces, List.append_assoc, List.singleton_append]
    rw [List.flatMap_cons, insertBackslashes_piece hpieces, ih hpassed, List.map_cons,
      List.flatMap_cons]

theorem toList_render_parse (source : String) :
    (Template.parse source).render.toList =
      Text.insertBackslashes (IsStray source) 0 source.toList := by
  have hinserted := insertBackslashes_pieces
    (List.nil_append (Piece.ofTokens (scan source.toList))).symm
  rw [flatMap_source_ofTokens_scan, ← parts_parse] at hinserted
  rw [Template.render, Part.render, String.toList_ofList, ← hinserted]
  rfl

/-- The rendering of a source is the source with a backslash in front of each bare brace that
delimits no reference. So it is the source itself exactly if every bare brace delimits one. -/
theorem render_parse_eq_insertBackslashes (source : String) :
    (Template.parse source).render =
        String.ofList (Text.insertBackslashes (IsStray source) 0 source.toList) ∧
      ((Template.parse source).render = source ↔
        ∀ brace offset, IsBare source brace offset → IsDelimiter source offset) := by
  have hrender := toList_render_parse source
  refine ⟨?_, ?_⟩
  · rw [← hrender, String.ofList_toList]
  · rw [← String.toList_inj, hrender, Text.insertBackslashes_eq_self_iff]
    constructor
    · intro hnone brace offset hbare
      obtain ⟨before, after, hsource, rfl⟩ :=
        (Text.byteAt?_eq_some_iff brace.utf8Size_char).mp hbare.1
      by_contra hstray
      refine hnone before brace.char after hsource ?_
      rw [Nat.zero_add]
      exact ⟨⟨brace, hbare⟩, hstray⟩
    · intro hall before c after hsource hstray
      obtain ⟨⟨brace, hbare⟩, hnot⟩ := hstray
      exact hnot (hall brace _ hbare)

example : (Template.parse "\x7b\x7d\x7ba\x7b\\\x7d\x7d\x7d").render =
    "\\\x7b\\\x7d\x7ba\\\x7b\\\x7d\x7d\\\x7d" := by
  decide +kernel

end RecordTemplate
