/-!
How the value of a reference is written into the output: as it is, or percent-encoded. Percent
encoding keeps ASCII letters, ASCII digits and `-`, `.`, `_`, `~`; every other character becomes
the bytes of its UTF-8 form, each as `%` and two upper-case hexadecimal digits.
-/

set_option autoImplicit false
set_option relaxedAutoImplicit false

namespace RecordTemplate

/-! ### Percent encoding -/

namespace Percent

/-- The characters that percent encoding keeps. -/
def isUnreserved (c : Char) : Bool :=
  c.isAlphanum || c == '-' || c == '.' || c == '_' || c == '~'

/-- The upper-case hexadecimal digit of a number below sixteen. -/
def hexDigit (n : Nat) : Char :=
  Char.ofNat (if n < 10 then '0'.toNat + n else 'A'.toNat + (n - 10))

def encodeByte (byte : UInt8) : List Char :=
  ['%', hexDigit (byte.toNat / 16), hexDigit (byte.toNat % 16)]

def encodeChar (c : Char) : List Char :=
  if isUnreserved c then [c] else (String.utf8EncodeChar c).flatMap encodeByte

def encode (text : String) : String :=
  String.ofList (text.toList.flatMap encodeChar)

end Percent

/-! ### The two encodings -/

inductive Encoding
  /-- Values are written as they are. -/
  | raw
  /-- Values are percent-encoded. -/
  | percent
  deriving DecidableEq, Repr, Inhabited

namespace Encoding

/-- The form in which a value is written. -/
def apply : Encoding → String → String
  | raw, value => value
  | percent, value => Percent.encode value

/-- The encoding that a choice for or against percent encoding stands for. -/
def ofBool (encodeReferences : Bool) : Encoding :=
  if encodeReferences then percent else raw

/-- The name of an encoding in exchanged data. -/
def name : Encoding → String
  | raw => "raw"
  | percent => "percent-encode-references"

def ofName? (name : String) : Option Encoding :=
  [raw, percent].find? fun encoding ↦ encoding.name == name

theorem ofName?_name (encoding : Encoding) : ofName? encoding.name = some encoding := by
  cases encoding <;> rfl

end Encoding

end RecordTemplate
