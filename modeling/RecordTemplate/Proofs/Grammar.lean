import RecordTemplate.Proofs.Positions
import RecordTemplate.Proofs.Tiling

/-!
The grammar of template sources, told by byte offsets and without reading any token. The references
of a source are found one after the other, each by the first delimiters at or behind an offset
(`References`). The constants are the longest stretches outside the references (`IsStretch`), and
every segment has the text that stands in its range, without the escaping backslashes. These rules
fit one list of segments only, and it is the one that the source is read as
(`segments_parse_eq_iff`).
-/

set_option autoImplicit false
set_option relaxedAutoImplicit false

namespace RecordTemplate

open Token

/-! ### The rules -/

/-- The names that are delimited from an offset of a source on. -/
inductive References (source : String) : Nat → List ByteRange → Prop
  | none {start : Nat}
      (hnone : ∀ opening closing, start ≤ opening → ¬ Delimits source opening closing) :
      References source start []
  | next {start opening closing : Nat} {ranges : List ByteRange} (hstart : start ≤ opening)
      (hdelimits : Delimits source opening closing)
      (hfirst : ∀ other closing, start ≤ other → other < opening → ¬ Delimits source other closing)
      (hrest : References source (closing + 1) ranges) :
      References source start (⟨opening + 1, closing⟩ :: ranges)

/-- An offset lies in none of the references, their braces counted in. -/
def IsOutside (references : List ByteRange) (offset : Nat) : Prop :=
  ∀ range ∈ references, offset + 1 < range.start ∨ range.stop < offset

/-- A longest stretch outside the references of a source with a number of bytes. -/
structure IsStretch (references : List ByteRange) (size : Nat) (range : ByteRange) : Prop where
  not_empty : range.start < range.stop
  stop_le : range.stop ≤ size
  isOutside : ∀ offset, range.start ≤ offset → offset < range.stop → IsOutside references offset
  longest_left : range.start = 0 ∨ ¬ IsOutside references (range.start - 1)
  longest_right : range.stop = size ∨ ¬ IsOutside references range.stop

/-- The text in a range of a source, without the backslashes right before braces. -/
def unescapedSlice (source : String) (range : ByteRange) : String :=
  String.ofList (unescapeBraces (Text.slice source range).toList)

/-- Segments are those of a source with the given references, in order. -/
structure IsSegmentation (source : String) (references : List ByteRange)
    (segments : List Segment) : Prop where
  mem_iff : ∀ segment, segment ∈ segments ↔
    (∃ range ∈ references, segment = ⟨.reference (unescapedSlice source range), range⟩) ∨
      ∃ range, IsStretch references source.utf8ByteSize range ∧
        segment = ⟨.constant (unescapedSlice source range), range⟩
  ordered : segments.Pairwise fun first second ↦ first.range.stop ≤ second.range.start

/-! ### The rules fit one list of segments -/

variable {source : String}

theorem References.unique {start : Nat} {ranges others : List ByteRange}
    (hranges : References source start ranges) (hothers : References source start others) :
    ranges = others := by
  induction hranges generalizing others with
  | none hnone =>
    cases hothers with
    | none _ => rfl
    | next hstart hdelimits _ _ => exact absurd hdelimits (hnone _ _ hstart)
  | @next _ opening _ _ hstart hdelimits hfirst _ ih =>
    cases hothers with
    | none hnone => exact absurd hdelimits (hnone _ _ hstart)
    | @next _ other closing _ hstartOther hdelimitsOther hfirstOther hrestOther =>
      rcases Nat.lt_trichotomy other opening with hlt | rfl | hgt
      · exact absurd hdelimitsOther (hfirst _ _ hstartOther hlt)
      · obtain rfl := hdelimits.unique hdelimitsOther
        rw [ih hrestOther]
      · exact absurd hdelimits (hfirstOther _ _ hstart hgt)

theorem References.start_lt_stop {start : Nat} {ranges : List ByteRange}
    (hranges : References source start ranges) :
    ∀ range ∈ ranges, range.start < range.stop := by
  induction hranges with
  | none _ => exact List.forall_mem_nil _
  | next _ hdelimits _ _ ih => exact List.forall_mem_cons.mpr ⟨hdelimits.name_ne_empty, ih⟩

namespace IsSegmentation

variable {references : List ByteRange} {segments others : List Segment}

theorem start_lt_stop (hreferences : References source 0 references)
    (h : IsSegmentation source references segments) {segment : Segment}
    (hsegment : segment ∈ segments) : segment.range.start < segment.range.stop := by
  rcases (h.mem_iff segment).mp hsegment with ⟨range, hrange, rfl⟩ | ⟨range, hrange, rfl⟩
  · exact hreferences.start_lt_stop range hrange
  · exact hrange.not_empty

theorem nodup (hreferences : References source 0 references)
    (h : IsSegmentation source references segments) : segments.Nodup := by
  refine h.ordered.imp_of_mem ?_
  intro first second hfirst _ hle heq
  have hlt := h.start_lt_stop hreferences hfirst
  rw [heq] at hle hlt
  omega

/-- Ranges that follow each other can be listed in one order only. -/
theorem unique (hreferences : References source 0 references)
    (h : IsSegmentation source references segments)
    (hothers : IsSegmentation source references others) : segments = others := by
  have hperm : segments.Perm others :=
    (List.perm_ext_iff_of_nodup (h.nodup hreferences) (hothers.nodup hreferences)).mpr
      fun segment ↦ (h.mem_iff segment).trans (hothers.mem_iff segment).symm
  refine hperm.eq_of_pairwise ?_ h.ordered hothers.ordered
  intro first second hfirst hsecond hle hge
  have hltFirst := h.start_lt_stop hreferences hfirst
  have hltSecond := hothers.start_lt_stop hreferences hsecond
  omega

end IsSegmentation

/-! ### The references of a reading -/

/-- The ranges of the references among segments. -/
def Segment.references (segments : List Segment) : List ByteRange :=
  (segments.filter fun segment ↦ ¬ segment.part.isConstant).map Segment.range

theorem byteSize_source_literal_cons (token : Token) (tokens : List Token) :
    Text.byteSize (Piece.literal (token :: tokens)).source =
      writtenSize [token] + Text.byteSize (Piece.literal tokens).source := by
  rw [Piece.source, List.flatMap_cons, Text.byteSize_append]
  simp [writtenSize, Piece.source]

theorem references_ofPieces_prependLiteral (start : Nat) (token : Token) (pieces : List Piece) :
    Segment.references (Segment.ofPieces start (Piece.prependLiteral token pieces)) =
      Segment.references (Segment.ofPieces (start + writtenSize [token]) pieces) := by
  unfold Piece.prependLiteral
  split
  · next tokens rest =>
    rw [Segment.ofPieces, Segment.ofPieces, byteSize_source_literal_cons, ← Nat.add_assoc]
    rfl
  · rw [Segment.ofPieces]
    rfl

/-- Passing over a stretch in which no reference starts does not change the references. -/
theorem References.of_le {start stop : Nat} {ranges : List ByteRange} (hle : start ≤ stop)
    (hnone : ∀ opening closing, start ≤ opening → opening < stop →
      ¬ Delimits source opening closing)
    (hranges : References source stop ranges) : References source start ranges := by
  cases hranges with
  | none hrest =>
    refine .none fun opening closing hopening ↦ ?_
    by_cases hlt : opening < stop
    · exact hnone opening closing hopening hlt
    · exact hrest opening closing (by omega)
  | next hstop hdelimits hfirst hrest =>
    refine .next (by omega) hdelimits (fun opening closing hopening hlt ↦ ?_) hrest
    by_cases hbefore : opening < stop
    · exact hnone opening closing hopening hbefore
    · exact hfirst opening closing (by omega) hlt

/-- Delimiters at or behind the place where a reading has arrived lie in the tokens to come. -/
theorem Delimits.exists_middle {passed tokens : List Token} {opening closing : Nat}
    (hscan : scan source.toList = passed ++ tokens) (hdelimits : Delimits source opening closing)
    (hle : writtenSize passed ≤ opening) :
    ∃ middle name rest, Piece.IsName name ∧
      tokens = middle ++ ((Piece.reference name).tokens ++ rest) ∧
      opening = writtenSize passed + writtenSize middle := by
  obtain ⟨before, name, rest, hname, hreference, rfl, -⟩ := hdelimits.exists_name
  obtain ⟨middle, rfl, hmiddle⟩ := exists_middle_of_append_eq (hscan.symm.trans hreference) hle
  exact ⟨middle, name, rest, hname, hmiddle, writtenSize_append passed middle⟩

/-- The references that a reading finds are those of the rules. The induction is on the reading,
with the tokens that it has passed as a parameter. -/
theorem references_of_reads {tokens : List Token} {pieces : List Piece}
    (hread : Piece.Reads tokens pieces) {passed : List Token}
    (hscan : scan source.toList = passed ++ tokens) :
    References source (writtenSize passed)
      (Segment.references (Segment.ofPieces (writtenSize passed) pieces)) := by
  induction hread generalizing passed with
  | done =>
    refine .none fun opening closing hle hdelimits ↦ ?_
    obtain ⟨middle, name, rest, -, hmiddle, -⟩ := hdelimits.exists_middle hscan hle
    rw [Piece.tokens_reference_append] at hmiddle
    simp at hmiddle
  | @literal token tokens pieces hstart _ ih =>
    have hpassed : scan source.toList = (passed ++ [token]) ++ tokens := by
      rw [hscan, List.append_assoc, List.singleton_append]
    have hrest := ih hpassed
    rw [writtenSize_append] at hrest
    rw [references_ofPieces_prependLiteral]
    refine hrest.of_le (Nat.le_add_right _ _) fun opening closing hle hlt hdelimits ↦ ?_
    obtain ⟨middle, name, rest, hname, hmiddle, rfl⟩ := hdelimits.exists_middle hscan hle
    -- a reference that opens before the next token opens at this one, where none starts
    cases middle with
    | nil => exact hstart ⟨name, rest, hname, hmiddle⟩
    | cons first middle =>
      rw [List.cons_append, List.cons.injEq] at hmiddle
      rw [← hmiddle.1, ← List.singleton_append, writtenSize_append] at hlt
      omega
  | @reference name rest pieces hname _ ih =>
    have hpassed : scan source.toList = (passed ++ (Piece.reference name).tokens) ++ rest := by
      rw [hscan, List.append_assoc]
    have hrest := ih hpassed
    have hsource : writtenSize (passed ++ (Piece.reference name).tokens) =
        writtenSize passed + Text.byteSize (Piece.reference name).source := by
      rw [writtenSize_append, Piece.source_eq]
      rfl
    have hclosing : writtenSize (passed ++ (Piece.reference name).tokens) =
        writtenSize passed + 1 + writtenSize name + 1 := by
      simp [Piece.tokens, Nat.add_assoc]
    rw [Segment.ofPieces, ← hsource]
    rw [hclosing] at hrest ⊢
    refine .next (Nat.le_refl _) (delimits_of_scan hname hscan) ?_ hrest
    exact fun other _ hle hlt ↦ absurd hlt (Nat.not_lt.mpr hle)

theorem references_segments (source : String) :
    References source 0 (Segment.references (Template.parse source).segments) := by
  rw [Template.segments_parse]
  exact references_of_reads (Piece.reads_ofTokens _) (List.nil_append _).symm

/-! ### The constants of a reading -/

theorem isOutside_references_iff {segments : List Segment} {offset : Nat} :
    IsOutside (Segment.references segments) offset ↔
      ∀ segment ∈ segments, ¬ segment.part.isConstant → ¬ segment.extent.Contains offset := by
  simp only [IsOutside, Segment.references, List.forall_mem_map, List.mem_filter, and_imp,
    decide_not, Bool.not_eq_true', decide_eq_false_iff_not]
  refine forall_congr' fun segment ↦ forall_congr' fun _ ↦ forall_congr' fun hreference ↦ ?_
  rw [Segment.extent, if_neg hreference, ByteRange.Contains]
  dsimp only
  omega

namespace IsStretch

variable {references : List ByteRange} {size offset : Nat} {range other : ByteRange}

theorem start_le (hrange : IsStretch references size range)
    (hother : IsStretch references size other) (hoffset : range.Contains offset)
    (hoffsetOther : other.Contains offset) : other.start ≤ range.start := by
  by_contra hlt
  obtain ⟨-, hstop⟩ := hoffset
  obtain ⟨hstart, -⟩ := hoffsetOther
  rcases hother.longest_left with hzero | hinside
  · omega
  · exact hinside (hrange.isOutside _ (by omega) (by omega))

theorem stop_le_stop (hrange : IsStretch references size range)
    (hother : IsStretch references size other) (hoffset : range.Contains offset)
    (hoffsetOther : other.Contains offset) : range.stop ≤ other.stop := by
  by_contra hlt
  have hsize := hrange.stop_le
  obtain ⟨hstart, -⟩ := hoffset
  obtain ⟨-, hstop⟩ := hoffsetOther
  rcases hother.longest_right with hend | hinside
  · omega
  · exact hinside (hrange.isOutside _ (by omega) (by omega))

/-- Stretches that share an offset are the same. -/
theorem eq_of_contains (hrange : IsStretch references size range)
    (hother : IsStretch references size other) (hoffset : range.Contains offset)
    (hoffsetOther : other.Contains offset) : range = other := by
  have hstart := hrange.start_le hother hoffset hoffsetOther
  have hstartOther := hother.start_le hrange hoffsetOther hoffset
  have hstop := hrange.stop_le_stop hother hoffset hoffsetOther
  have hstopOther := hother.stop_le_stop hrange hoffsetOther hoffset
  cases range
  cases other
  rw [ByteRange.mk.injEq]
  exact ⟨Nat.le_antisymm hstartOther hstart, Nat.le_antisymm hstop hstopOther⟩

end IsStretch

section Tiled

variable {segments : List Segment} {size : Nat}

theorem not_isOutside_of_contains {segment : Segment} (hsegment : segment ∈ segments)
    (hreference : ¬ segment.part.isConstant) {offset : Nat}
    (hcontains : segment.extent.Contains offset) :
    ¬ IsOutside (Segment.references segments) offset :=
  fun houtside ↦ isOutside_references_iff.mp houtside segment hsegment hreference hcontains

/-- In a tiling without neighbouring constants, the range of a constant is a stretch: what stands
next to it are references. -/
theorem isStretch_of_constant (htile : ByteRange.Tile 0 size (segments.map Segment.extent))
    (hapart : segments.IsChain fun first second ↦
      ¬ (first.part.isConstant ∧ second.part.isConstant))
    {segment : Segment} (hsegment : segment ∈ segments) (hconstant : segment.part.isConstant) :
    IsStretch (Segment.references segments) size segment.range := by
  obtain ⟨before, after, rfl⟩ := List.append_of_mem hsegment
  have hextent : segment.extent = segment.range := if_pos hconstant
  rw [List.map_append, List.map_cons] at htile
  obtain ⟨middle, hbefore, hstart, hlt, hafter⟩ := htile.exists_middle
  rw [hextent] at hstart hlt hafter
  obtain ⟨-, hsecond, hprevious⟩ := List.isChain_append.mp hapart
  obtain ⟨hnext, -⟩ := List.isChain_cons.mp hsecond
  refine ⟨hlt, hafter.start_le_stop, ?_, ?_, ?_⟩
  · intro offset hle hoffset
    refine isOutside_references_iff.mpr fun other hother hreference hcontains ↦ ?_
    obtain ⟨hotherStart, hotherStop⟩ := hcontains
    rcases List.mem_append.mp hother with hmem | hmem
    · have hbound := (hbefore.le_of_mem (List.mem_map_of_mem hmem)).2
      omega
    · rcases List.mem_cons.mp hmem with rfl | hmem
      · exact hreference hconstant
      · have hbound := (hafter.le_of_mem (List.mem_map_of_mem hmem)).1
        omega
  -- on each side there is an end of the source or a reference, whose brace is next to the constant
  · rcases before.eq_nil_or_concat' with rfl | ⟨lead, previous, rfl⟩
    · exact Or.inl (hstart.trans (Eq.symm hbefore))
    · rw [List.map_append, List.map_singleton] at hbefore
      have hreference : ¬ previous.part.isConstant := fun h ↦
        hprevious previous (by simp) segment rfl ⟨h, hconstant⟩
      rw [hstart]
      exact Or.inr (not_isOutside_of_contains (by simp) hreference hbefore.contains_last)
  · cases after with
    | nil => exact Or.inl hafter
    | cons next rest =>
      have hreference : ¬ next.part.isConstant := fun h ↦ hnext next rfl ⟨hconstant, h⟩
      exact Or.inr (not_isOutside_of_contains (by simp) hreference hafter.contains_first)

/-- A stretch shares its first offset with a constant, so it is the range of that constant. -/
theorem isStretch_references_iff (htile : ByteRange.Tile 0 size (segments.map Segment.extent))
    (hapart : segments.IsChain fun first second ↦
      ¬ (first.part.isConstant ∧ second.part.isConstant)) {range : ByteRange} :
    IsStretch (Segment.references segments) size range ↔
      ∃ segment ∈ segments, segment.part.isConstant ∧ segment.range = range := by
  constructor
  · intro hstretch
    have hlt := hstretch.not_empty
    have hle := hstretch.stop_le
    obtain ⟨extent, hextent, hcontains⟩ :=
      htile.exists_contains (Nat.zero_le range.start) (Nat.lt_of_lt_of_le hlt hle)
    obtain ⟨segment, hsegment, rfl⟩ := List.mem_map.mp hextent
    have hconstant : segment.part.isConstant := by
      by_contra hreference
      exact not_isOutside_of_contains hsegment hreference hcontains
        (hstretch.isOutside range.start (Nat.le_refl _) hlt)
    rw [Segment.extent, if_pos hconstant] at hcontains
    have hrange := isStretch_of_constant htile hapart hsegment hconstant
    exact ⟨segment, hsegment, hconstant,
      hrange.eq_of_contains hstretch hcontains ⟨Nat.le_refl _, hlt⟩⟩
  · intro hsegments
    obtain ⟨segment, hsegment, hconstant, rfl⟩ := hsegments
    exact isStretch_of_constant htile hapart hsegment hconstant

end Tiled

/-! ### The segments of a source -/

namespace Segment

variable {segment : Segment}

theorem Matches.text_part (hmatches : segment.Matches source) :
    segment.part.text = unescapedSlice source segment.range := by
  rw [unescapedSlice, hmatches.text, String.ofList_toList]

theorem Matches.eq_constant (hmatches : segment.Matches source)
    (hconstant : segment.part.isConstant) :
    segment = ⟨.constant (unescapedSlice source segment.range), segment.range⟩ := by
  rw [← hmatches.text_part]
  obtain ⟨part, range⟩ := segment
  cases part with
  | constant text => rfl
  | reference name => contradiction

theorem Matches.eq_reference (hmatches : segment.Matches source)
    (hreference : ¬ segment.part.isConstant) :
    segment = ⟨.reference (unescapedSlice source segment.range), segment.range⟩ := by
  rw [← hmatches.text_part]
  obtain ⟨part, range⟩ := segment
  cases part with
  | constant text => exact absurd rfl hreference
  | reference name => rfl

theorem range_le_extent (segment : Segment) :
    segment.extent.start ≤ segment.range.start ∧ segment.range.stop ≤ segment.extent.stop := by
  rw [extent]
  split
  · exact ⟨Nat.le_refl _, Nat.le_refl _⟩
  · exact ⟨Nat.sub_le _ _, Nat.le_succ _⟩

end Segment

theorem mem_references_iff {segments : List Segment} {range : ByteRange} :
    range ∈ Segment.references segments ↔
      ∃ segment ∈ segments, ¬ segment.part.isConstant ∧ segment.range = range := by
  simp [Segment.references, and_assoc]

theorem isSegmentation_segments (source : String) :
    IsSegmentation source (Segment.references (Template.parse source).segments)
      (Template.parse source).segments := by
  have htile := tile_extent_segments source
  have hapart := (expressible_parts_parse source).constants_apart
  rw [Template.parts, List.isChain_map] at hapart
  constructor
  · intro segment
    simp only [mem_references_iff, isStretch_references_iff htile hapart]
    constructor
    · intro hsegment
      have hmatches := matches_of_mem_segments hsegment
      by_cases hconstant : segment.part.isConstant
      · exact Or.inr ⟨_, ⟨segment, hsegment, hconstant, rfl⟩, hmatches.eq_constant hconstant⟩
      · exact Or.inl ⟨_, ⟨segment, hsegment, hconstant, rfl⟩, hmatches.eq_reference hconstant⟩
    · intro hrules
      rcases hrules with ⟨_, ⟨other, hother, hreference, rfl⟩, rfl⟩ |
        ⟨_, ⟨other, hother, hconstant, rfl⟩, rfl⟩
      · rw [← (matches_of_mem_segments hother).eq_reference hreference]
        exact hother
      · rw [← (matches_of_mem_segments hother).eq_constant hconstant]
        exact hother
  · refine (List.pairwise_map.mp htile.pairwise).imp fun {first second} hle ↦ ?_
    have hfirst := first.range_le_extent.2
    have hsecond := second.range_le_extent.1
    omega

/-- The segments of a source are those, and only those, that the grammar gives it. -/
theorem segments_parse_eq_iff (source : String) (segments : List Segment) :
    (Template.parse source).segments = segments ↔
      ∃ references, References source 0 references ∧
        IsSegmentation source references segments := by
  have hreferences := references_segments source
  have hsegments := isSegmentation_segments source
  constructor
  · rintro rfl
    exact ⟨_, hreferences, hsegments⟩
  · intro hrules
    obtain ⟨references, hothers, hsegmentation⟩ := hrules
    rw [← hreferences.unique hothers] at hsegmentation
    exact hsegments.unique hreferences hsegmentation

end RecordTemplate
