/-!
What is wrong with a text that is not JSON, and for what purpose a text is read.
-/

set_option autoImplicit false
set_option relaxedAutoImplicit false

namespace RecordTemplate.Json

inductive Fault
  /-- The text ends before the value does. -/
  | truncated
  | malformed
  deriving DecidableEq, Repr

/-- The fault of a text that does not go on as it has to. -/
def Fault.ofRest (rest : List Char) : Fault :=
  if rest.isEmpty then truncated else malformed

/-- A value is read to be kept, or to be passed over. What is passed over is held to less: its
strings may escape half a pair of surrogates, its numbers may be out of range, and it may be nested
to any depth. -/
inductive Purpose
  | keep
  | skip
  deriving DecidableEq, Repr

end RecordTemplate.Json
