import RecordTemplate.Text.Utf8
import RecordTemplate.Template.Parser

/-!
Templates: a source together with its segments. Every text is the source of a template (`parse`),
and every text is the value of a constant template (`constant`), whose source is the text with its
braces escaped.
-/

set_option autoImplicit false
set_option relaxedAutoImplicit false

namespace RecordTemplate

structure Template where
  source : String
  segments : List Segment
  deriving DecidableEq, Repr

namespace Template

/-- The template with a given source. Reading a source never fails. -/
def parse (source : String) : Template :=
  let bytes := source.toByteArray
  ⟨source, segmentsBy (searchUnless bytes) source bytes⟩

/-- The template that has one constant segment, or none if the value is empty. -/
def constant (value : String) : Template :=
  let source := escapeBraces value.toList
  let range : ByteRange := ⟨0, Text.byteSize source⟩
  ⟨String.ofList source, if value.isEmpty then [] else [⟨.constant value, range⟩]⟩

/-- The parts of a template, in order. -/
def parts (template : Template) : List Part :=
  template.segments.map Segment.part

/-- The names of the fields that a template refers to, in order and with repetitions. -/
def references (template : Template) : List String :=
  template.parts.filterMap Part.reference?

def isConstant (template : Template) : Bool :=
  template.references.isEmpty

/-- The parts of a template, written as template syntax. -/
def render (template : Template) : String :=
  Part.render template.parts

end Template

end RecordTemplate
