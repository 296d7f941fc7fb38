import RecordTemplate.Brace

/-!
The one way in which an evaluation fails: a reference names a field that the record lacks.
-/

set_option autoImplicit false
set_option relaxedAutoImplicit false

namespace RecordTemplate

/-- A reference without a value. The position and the size, in bytes, are those of the name as it
is written in the template source; with escaped braces in it that is longer than the name. -/
structure MissingField where
  position : Nat
  size : Nat
  name : String
  deriving DecidableEq, Repr

/-- The message quotes the reference in template syntax, the braces of its name escaped. -/
def MissingField.message (missing : MissingField) : String :=
  "No value for reference: \x7b" ++ String.ofList (escapeBraces missing.name.toList) ++ "\x7d"

end RecordTemplate
