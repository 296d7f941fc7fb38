import RecordTemplate.Template.Part

/-!
The segments of a template: its parts, each with the stretch of the source where its text stands.
-/

set_option autoImplicit false
set_option relaxedAutoImplicit false

namespace RecordTemplate

/-- A stretch of a text, from one byte offset up to another. -/
structure ByteRange where
  start : Nat
  stop : Nat
  deriving DecidableEq, Repr

/-- The stretch of a source between two byte offsets. -/
def Text.slice (source : String) (range : ByteRange) : String :=
  String.Pos.Raw.extract source ⟨range.start⟩ ⟨range.stop⟩

/-- A part of a template and the place of its text in the source. The range of a reference is that
of its name, without the braces. -/
structure Segment where
  part : Part
  range : ByteRange
  deriving DecidableEq, Repr

end RecordTemplate
