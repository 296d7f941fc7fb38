import RecordTemplate.Encoding
import RecordTemplate.MissingField
import RecordTemplate.Record
import RecordTemplate.Template

/-!
Evaluation of a template against a record: constants are copied, and each reference is replaced by
the value of its field in the chosen encoding. The first reference without a value makes the whole
evaluation fail; there is no partial output.
-/

set_option autoImplicit false
set_option relaxedAutoImplicit false

namespace RecordTemplate

/-- What a segment contributes to the output. -/
def Segment.evaluate (segment : Segment) (record : Record) (encoding : Encoding) :
    Except MissingField String :=
  match segment.part with
  | .constant text => .ok text
  | .reference name =>
    match record name with
    | some value => .ok (encoding.apply value)
    | none => .error ⟨segment.range.start, segment.range.stop - segment.range.start, name⟩

namespace Template

/-- The output of a template for a record, or the first reference that has no value. -/
def evaluate (template : Template) (record : Record) (encoding : Encoding) :
    Except MissingField String :=
  (template.segments.mapM (Segment.evaluate · record encoding)).map String.join

/-- The output of a template for a record, if every reference has a value. -/
def evaluate? (template : Template) (record : Record) (encoding : Encoding) : Option String :=
  (template.evaluate record encoding).toOption

end Template

/-- The output of the template with the given source. -/
def substitute? (source : String) (record : Record) (encoding : Encoding) : Option String :=
  (Template.parse source).evaluate? record encoding

end RecordTemplate
