import RecordTemplate.Proofs.Evaluation

/-!
Constant templates. The template of a value is made without reading anything, and still it is the
template that its source is read as, with the same segments and ranges (`parse_source_constant`):
with its braces escaped, the value is literal text from its first character to its last, so a
backslash of the value itself stays a character. Hence both give back the value for every record and
in every encoding (`constant_roundTrip`).
-/

set_option autoImplicit false
set_option relaxedAutoImplicit false

namespace RecordTemplate

theorem source_constant (value : String) :
    (Template.constant value).source = String.ofList (escapeBraces value.toList) := rfl

theorem segments_constant (value : String) :
    (Template.constant value).segments = if value = "" then []
      else [⟨.constant value, ⟨0, Text.byteSize (escapeBraces value.toList)⟩⟩] := by
  simp only [Template.constant, String.isEmpty_iff]

theorem render_parts_constant (value : String) :
    Part.render (Template.constant value).parts = (Template.constant value).source := by
  rw [parts_constant, source_constant]
  split
  · next hvalue =>
    rw [hvalue]
    rfl
  · rw [Part.render, List.flatMap_singleton, Part.renderChars]

theorem piece_segment_constant (value : String) (start : Nat) :
    (Part.constant value).piece.segment start =
      ⟨.constant value, ⟨start, start + Text.byteSize (escapeBraces value.toList)⟩⟩ := by
  rw [Part.piece, Piece.segment, Token.flatMap_source_map_literal]
  simp [Function.comp_def]

/-- The template of a value is the one that its source is read as. -/
theorem parse_source_constant (value : String) :
    Template.parse (Template.constant value).source = Template.constant value := by
  have hread := ofTokens_scan_render (expressible_parts_constant value)
  rw [render_parts_constant, parts_constant] at hread
  rw [Template.parse_eq, hread, Template.mk.injEq, segments_constant]
  refine ⟨rfl, ?_⟩
  split
  · rfl
  · rw [List.map_singleton, Segment.ofPieces, piece_segment_constant, Nat.zero_add]
    rfl

theorem evaluate?_constant (value : String) (record : Record) (encoding : Encoding) :
    (Template.constant value).evaluate? record encoding = some value := by
  rw [Template.evaluate?_eq_some_iff, Template.references, parts_constant]
  refine ⟨fun _ ↦ "", ?_, ?_⟩
  · split <;> exact List.forall_mem_nil _
  · split
    · next hvalue => exact hvalue
    · simp [Part.output, Part.expand]

/-- No brace and no backslash of a value turns into syntax when the template of the value is written
down and read again: it is the same template, and what it evaluates to is the value. -/
theorem constant_roundTrip (value : String) :
    Template.parse (Template.constant value).source = Template.constant value ∧
      ∀ record encoding,
        (Template.constant value).evaluate? record encoding = some value ∧
          (Template.parse (Template.constant value).source).evaluate? record encoding =
            some value := by
  have hparse := parse_source_constant value
  refine ⟨hparse, fun record encoding ↦ ?_⟩
  have hvalue := evaluate?_constant value record encoding
  rw [hparse]
  exact ⟨hvalue, hvalue⟩

end RecordTemplate
