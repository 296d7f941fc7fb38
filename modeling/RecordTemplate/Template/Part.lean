import RecordTemplate.Brace

/-!
The parts of a template, free of the source that they were read from: constant texts and references
to fields. A list of parts is written back as template syntax by `render`.
-/

set_option autoImplicit false
set_option relaxedAutoImplicit false

namespace RecordTemplate

inductive Part
  | constant (text : String)
  | reference (name : String)
  deriving DecidableEq, Repr

namespace Part

/-- The name of the field that a part refers to. -/
def reference? : Part → Option String
  | constant _ => none
  | reference name => some name

/-- A part in template syntax, the braces of its text escaped. -/
def renderChars : Part → List Char
  | constant text => escapeBraces text.toList
  | reference name => '{' :: escapeBraces name.toList ++ ['}']

/-- Parts in template syntax. -/
def render (parts : List Part) : String :=
  String.ofList (parts.flatMap renderChars)

end Part

end RecordTemplate
