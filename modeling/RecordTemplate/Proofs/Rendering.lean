import Mathlib.Tactic.MkIffOfInductiveProp
import RecordTemplate.Proofs.Parsing
import RecordTemplate.Session

/-!
What template syntax can express, and that rendering expresses it. A source tells nothing but parts
of the form `Part.Expressible`: no text is empty, constants are never neighbours, and no backslash
stands at the end of a name or of a constant before a reference, where it would escape the brace
behind it. Conversely the rendering of expressible parts is read back as these parts
(`parts_parse_render`). So the lists of parts that some source has are exactly the expressible ones
(`exists_parts_parse_iff`), and the templates that can be built keep their parts when they are
rendered and read again (`render_roundTrip`).
-/

set_option autoImplicit false
set_option relaxedAutoImplicit false

namespace RecordTemplate

open Token

/-! ### Parts of pieces -/

/-- The part that a piece stands for. -/
def Piece.part : Piece → Part
  | literal tokens => .constant (String.ofList (tokens.map Token.text))
  | reference name => .reference (String.ofList (name.map Token.text))

theorem Piece.part_segment (start : Nat) (piece : Piece) :
    (piece.segment start).part = piece.part := by
  cases piece <;> rfl

theorem map_part_ofPieces (start : Nat) (pieces : List Piece) :
    (Segment.ofPieces start pieces).map Segment.part = pieces.map Piece.part := by
  induction pieces generalizing start with
  | nil => rfl
  | cons piece pieces ih =>
    rw [Segment.ofPieces, List.map_cons, ih, Piece.part_segment, List.map_cons]

theorem parts_parse (source : String) :
    (Template.parse source).parts = (Piece.ofTokens (scan source.toList)).map Piece.part := by
  rw [Template.parts, Template.segments_parse, map_part_ofPieces]

namespace Part

/-- The text of a constant, or the name of a reference. -/
def text : Part → String
  | constant text => text
  | reference name => name

def isConstant : Part → Bool
  | constant _ => true
  | reference _ => false

def EndsInBackslash (part : Part) : Prop :=
  part.text.toList.getLast? = some '\\'

instance (part : Part) : Decidable part.EndsInBackslash :=
  inferInstanceAs (Decidable (_ = _))

/-- Parts that template syntax can express. -/
@[mk_iff]
structure Expressible (parts : List Part) : Prop where
  text_ne_empty : ∀ part ∈ parts, part.text ≠ ""
  constants_apart : parts.IsChain fun first second ↦ ¬ (first.isConstant ∧ second.isConstant)
  constant_end : parts.IsChain fun first second ↦
    first.isConstant → ¬ second.isConstant → ¬ first.EndsInBackslash
  name_end : ∀ part ∈ parts, ¬ part.isConstant → ¬ part.EndsInBackslash

instance (parts : List Part) : Decidable (Expressible parts) :=
  decidable_of_iff' _ (expressible_iff parts)

end Part

/-! ### The parts of a source are expressible -/

namespace Piece

theorem isConstant_part (piece : Piece) : piece.part.isConstant ↔ piece.IsLiteral := by
  cases piece <;> simp [part, Part.isConstant, IsLiteral]

theorem toList_text_part (piece : Piece) :
    piece.part.text.toList = piece.content.map Token.text := by
  cases piece <;> exact String.toList_ofList

theorem endsInBackslash_part (piece : Piece) :
    piece.part.EndsInBackslash ↔ piece.content.getLast? = some (plain '\\') := by
  rw [Part.EndsInBackslash, toList_text_part, getLast?_map_text_eq_backslash_iff]

theorem text_part_ne_empty {piece : Piece} (hfilled : piece.IsFilled) : piece.part.text ≠ "" := by
  rw [ne_eq, ← String.toList_eq_nil_iff, toList_text_part, List.map_eq_nil_iff]
  exact hfilled.content_ne_nil

/-- A constant before a reference ends in no backslash, which would escape the brace. -/
theorem isChain_constant_end {pieces : List Piece} (hscanned : Scanned (pieces.flatMap tokens)) :
    pieces.IsChain fun first second ↦
      first.part.isConstant → ¬ second.part.isConstant → ¬ first.part.EndsInBackslash := by
  induction pieces with
  | nil => exact List.isChain_nil
  | cons piece pieces ih =>
    rw [List.flatMap_cons] at hscanned
    refine List.isChain_cons.mpr ⟨fun next hnext hconstant hreference ↦ ?_, ih hscanned.right⟩
    obtain ⟨rest, rfl⟩ := List.head?_eq_some_iff.mp hnext
    rw [isConstant_part] at hconstant hreference
    cases piece with
    | literal text =>
      cases next with
      | literal _ => exact absurd trivial hreference
      | reference name =>
        rw [List.flatMap_cons, tokens_reference_append] at hscanned
        rw [endsInBackslash_part]
        exact hscanned.getLast?_ne_backslash
    | reference _ => exact absurd hconstant id

/-- Nor does a name, behind which there is the closing brace. -/
theorem not_endsInBackslash_of_reference {pieces : List Piece}
    (hscanned : Scanned (pieces.flatMap tokens)) {piece : Piece} (hpiece : piece ∈ pieces)
    (hreference : ¬ piece.part.isConstant) : ¬ piece.part.EndsInBackslash := by
  obtain ⟨before, after, rfl⟩ := List.append_of_mem hpiece
  rw [isConstant_part] at hreference
  cases piece with
  | literal _ => exact absurd trivial hreference
  | reference name =>
    rw [List.flatMap_append, List.flatMap_cons, tokens_reference_append] at hscanned
    have hname : Scanned (name ++ bare .closing :: after.flatMap tokens) :=
      (List.singleton_append ▸ hscanned.right : Scanned ([bare .opening] ++ _)).right
    rw [endsInBackslash_part]
    exact hname.getLast?_ne_backslash

theorem Normal.expressible {pieces : List Piece} (hnormal : Normal pieces)
    (hscanned : Scanned (pieces.flatMap tokens)) : Part.Expressible (pieces.map part) where
  text_ne_empty := List.forall_mem_map.mpr fun piece hpiece ↦
    text_part_ne_empty (hnormal.filled piece hpiece)
  constants_apart := by
    rw [List.isChain_map]
    simpa only [isConstant_part] using hnormal.apart
  constant_end := (List.isChain_map part).mpr (isChain_constant_end hscanned)
  name_end := List.forall_mem_map.mpr fun _ hpiece ↦
    not_endsInBackslash_of_reference hscanned hpiece

end Piece

theorem expressible_parts_parse (source : String) :
    Part.Expressible (Template.parse source).parts := by
  have hread := Piece.reads_ofTokens (scan source.toList)
  rw [parts_parse]
  refine hread.normal.expressible ?_
  rw [hread.flatMap_tokens]
  exact scanned_scan source.toList

theorem parts_constant (value : String) :
    (Template.constant value).parts = if value = "" then [] else [.constant value] := by
  simp only [Template.parts, Template.constant, String.isEmpty_iff]
  split <;> rfl

theorem expressible_parts_constant (value : String) :
    Part.Expressible (Template.constant value).parts := by
  by_cases hvalue : value = ""
  · subst hvalue
    exact ⟨by simp [parts_constant], by simp [parts_constant], by simp [parts_constant],
      by simp [parts_constant]⟩
  · rw [parts_constant, if_neg hvalue]
    exact ⟨by simpa [Part.text] using hvalue, List.isChain_singleton _, List.isChain_singleton _,
      by simp [Part.isConstant]⟩

/-! ### Expressible parts are read back from their rendering -/

namespace Part

/-- The piece that a part is rendered as. -/
def piece : Part → Piece
  | constant text => .literal (text.toList.map literal)
  | reference name => .reference (name.toList.map literal)

theorem part_piece (part : Part) : part.piece.part = part := by
  cases part <;> simp [piece, Piece.part, Function.comp_def]

theorem source_piece (part : Part) : part.piece.source = part.renderChars := by
  cases part <;> simp [piece, Piece.source, renderChars, flatMap_source_map_literal]

theorem content_piece (part : Part) : part.piece.content = part.text.toList.map literal := by
  cases part <;> rfl

theorem toList_render (parts : List Part) :
    (render parts).toList = ((parts.map piece).flatMap Piece.tokens).flatMap source := by
  rw [render, String.toList_ofList, ← Piece.flatMap_source_eq, List.flatMap_map]
  exact congrArg parts.flatMap (funext fun part ↦ part.source_piece.symm)

theorem endsInBackslash_iff (part : Part) :
    part.EndsInBackslash ↔ part.piece.content.getLast? = some (plain '\\') := by
  rw [← Piece.endsInBackslash_part, part_piece]

theorem isConstant_iff (part : Part) : part.isConstant ↔ part.piece.IsLiteral := by
  rw [← Piece.isConstant_part, part_piece]

theorem bare_not_mem_map_literal (text : List Char) (brace : Brace) :
    bare brace ∉ text.map literal := by
  intro hmem
  obtain ⟨c, -, hc⟩ := List.mem_map.mp hmem
  exact literal_ne_bare c brace hc

theorem isFilled_piece {part : Part} (hpart : part.text ≠ "") : part.piece.IsFilled := by
  have hcontent : part.text.toList.map literal ≠ [] := by
    rw [ne_eq, List.map_eq_nil_iff, String.toList_eq_nil_iff]
    exact hpart
  cases part with
  | constant text => exact hcontent
  | reference name => exact ⟨hcontent, bare_not_mem_map_literal _ _⟩

theorem scanned_tokens_piece {part : Part} (hpart : ¬ part.isConstant → ¬ part.EndsInBackslash) :
    Scanned part.piece.tokens := by
  cases part with
  | constant text => exact scanned_map_literal text.toList
  | reference name =>
    have hbare (brace : Brace) : Scanned [bare brace] := ⟨by simp, List.isChain_singleton _⟩
    have hname : Scanned (name.toList.map literal ++ [bare .closing]) := by
      refine Scanned.append_iff.mpr ⟨scanned_map_literal _, hbare _, ?_⟩
      intro token htoken next hnext hbackslash
      refine absurd ((endsInBackslash_iff _).mpr ?_) (hpart (by simp [isConstant]))
      rw [← hbackslash]
      exact htoken
    have htokens : (reference name).piece.tokens =
        [bare .opening] ++ (name.toList.map literal ++ [bare .closing]) := rfl
    rw [htokens, Scanned.append_iff]
    exact ⟨hbare _, hname, by simp [Apart]⟩

namespace Expressible

theorem tail {part : Part} {parts : List Part} (h : Expressible (part :: parts)) :
    Expressible parts :=
  ⟨(List.forall_mem_cons.mp h.text_ne_empty).2, h.constants_apart.of_cons, h.constant_end.of_cons,
    (List.forall_mem_cons.mp h.name_end).2⟩

variable {parts : List Part}

theorem normal (h : Expressible parts) : Piece.Normal (parts.map piece) where
  filled := List.forall_mem_map.mpr fun part hpart ↦ isFilled_piece (h.text_ne_empty part hpart)
  apart := by
    rw [List.isChain_map]
    simpa only [isConstant_iff] using h.constants_apart

/-- What a part is rendered as ends in no backslash before the brace of a reference. -/
theorem scanned (h : Expressible parts) : Scanned ((parts.map piece).flatMap Piece.tokens) := by
  induction parts with
  | nil => exact Scanned.nil
  | cons part parts ih =>
    rw [List.map_cons, List.flatMap_cons]
    refine Scanned.append_iff.mpr
      ⟨scanned_tokens_piece (h.name_end part List.mem_cons_self), ih h.tail, ?_⟩
    intro token htoken next hnext hbackslash
    cases part with
    | reference name =>
      rw [piece, Piece.tokens, List.getLast?_concat, Option.mem_some_iff] at htoken
      rw [← htoken] at hbackslash
      contradiction
    | constant text =>
      cases parts with
      | nil => contradiction
      | cons second parts =>
        have hend : ¬ (constant text).EndsInBackslash := by
          obtain ⟨hapart, -⟩ := List.isChain_cons_cons.mp h.constants_apart
          obtain ⟨hbefore, -⟩ := List.isChain_cons_cons.mp h.constant_end
          exact hbefore rfl fun hsecond ↦ hapart ⟨rfl, hsecond⟩
        rw [endsInBackslash_iff, ← hbackslash] at hend
        exact absurd htoken hend

end Expressible

end Part

/-- The rendering of expressible parts is read as the pieces that they were rendered as. -/
theorem ofTokens_scan_render {parts : List Part} (hparts : Part.Expressible parts) :
    Piece.ofTokens (scan (Part.render parts).toList) = parts.map Part.piece := by
  have hopening (text : List Token) (htext : Piece.literal text ∈ parts.map Part.piece) :
      bare .opening ∉ text := by
    obtain ⟨part, -, hpart⟩ := List.mem_map.mp htext
    have hcontent : part.text.toList.map literal = text := by
      rw [← Part.content_piece, hpart, Piece.content]
    rw [← hcontent]
    exact Part.bare_not_mem_map_literal _ _
  rw [Part.toList_render, hparts.scanned.scan_flatMap_source,
    Piece.ofTokens_flatMap_tokens hparts.normal hopening]

/-- Expressible parts are read back from their rendering. -/
theorem parts_parse_render {parts : List Part} (hparts : Part.Expressible parts) :
    (Template.parse (Part.render parts)).parts = parts := by
  rw [parts_parse, ofTokens_scan_render hparts, List.map_map]
  exact (List.map_congr_left fun part _ ↦ part.part_piece).trans parts.map_id

/-! ### What can be built and what can be expressed -/

theorem expressible_parts (origin : Origin) (text : String) :
    Part.Expressible (origin.template text).parts := by
  cases origin with
  | source => exact expressible_parts_parse text
  | value => exact expressible_parts_constant text

/-- A source has a list of parts exactly if the list is expressible, and then its rendering is such
a source. -/
theorem exists_parts_parse_iff (parts : List Part) :
    ((∃ source, (Template.parse source).parts = parts) ↔ Part.Expressible parts) ∧
      ((Template.parse (Part.render parts)).parts = parts ↔ Part.Expressible parts) := by
  have hexpressible (source : String) (hsource : (Template.parse source).parts = parts) :
      Part.Expressible parts := by
    rw [← hsource]
    exact expressible_parts_parse source
  refine ⟨⟨?_, fun hparts ↦ ⟨Part.render parts, parts_parse_render hparts⟩⟩,
    ⟨hexpressible _, parts_parse_render⟩⟩
  intro hexists
  obtain ⟨source, hsource⟩ := hexists
  exact hexpressible source hsource

example : Part.Expressible [.reference "a", .constant "b\\"] ∧
    ¬ Part.Expressible [.constant "b\\", .reference "a"] := by
  decide

/-- A template that was read from a source or made of a value keeps its parts when it is rendered
and read again, and is then rendered as the same text. None has a constant that ends in a backslash
right before a reference. -/
theorem render_roundTrip (origin : Origin) (text : String) :
    (Template.parse (origin.template text).render).parts = (origin.template text).parts ∧
      (Template.parse (origin.template text).render).render = (origin.template text).render ∧
      ∀ before constant name after,
        (origin.template text).parts = before ++ .constant constant :: .reference name :: after →
          constant.toList.getLast? ≠ some '\\' := by
  have hparts := expressible_parts origin text
  have hread := parts_parse_render hparts
  refine ⟨hread, congrArg Part.render hread, ?_⟩
  intro before constant name after hsplit
  rw [hsplit] at hparts
  obtain ⟨-, hend, -⟩ := List.isChain_append_cons_cons.mp hparts.constant_end
  exact hend rfl Bool.false_ne_true

end RecordTemplate
