import RecordTemplate.Decimal.Notation
import RecordTemplate.Encoding
import RecordTemplate.Json.Basic
import RecordTemplate.Text.Quoted

/-!
What is wrong with JSON that does not stand for a template, an encoding or a rule, and the messages
that say so.
-/

set_option autoImplicit false
set_option relaxedAutoImplicit false

namespace RecordTemplate

/-! ### Wrong types -/

/-- What a value turned out to be. -/
inductive Found
  | null
  | bool (value : Bool)
  | number (value : Json.Number.Value)
  | string (value : String)
  | sequence
  | map

def Json.found : Json → Found
  | null => .null
  | bool value => .bool value
  | number written => .number written.value
  | string value => .string value
  | array _ => .sequence
  | object _ => .map

def Found.describe : Found → String
  | null => "null"
  | bool value => "boolean `" ++ toString value ++ "`"
  | number (.integer value) => "integer `" ++ toString value ++ "`"
  | number (.float value) => "floating point `" ++ Decimal.textOfFloat value ++ "`"
  | string value => "string " ++ Text.quote value
  | sequence => "sequence"
  | map => "map"

/-- What a value has to be in some place. -/
inductive Expectation
  | template
  | unit
  | encoding
  | rule
  deriving DecidableEq, Repr

def Expectation.describe : Expectation → String
  | template => "a template string"
  | unit => "unit"
  | encoding => "string or map"
  | rule => "struct TemplateFunction"

/-! ### Members of a rule -/

inductive Member
  | template
  | encoding
  deriving DecidableEq, Repr

namespace Member

def name : Member → String
  | template => "template"
  | encoding => "encoding"

def ofName? (name : String) : Option Member :=
  [template, encoding].find? fun member ↦ member.name == name

end Member

/-! ### Mismatches -/

inductive Mismatch
  | wrongType (found : Found) (expected : Expectation)
  | unknownEncoding (name : String)
  /-- An object that names no encoding, or more than one. -/
  | notOneName
  | noTemplate
  | repeated (member : Member)
  | emptySequence
  | longSequence (length : Nat)

def Mismatch.message : Mismatch → String
  | wrongType found expected =>
    "invalid type: " ++ found.describe ++ ", expected " ++ expected.describe
  | unknownEncoding name =>
    "unknown variant `" ++ name ++ "`, expected `" ++ Encoding.raw.name ++ "` or `" ++
      Encoding.percent.name ++ "`"
  | notOneName => "invalid value: map, expected map with a single key"
  | noTemplate => "missing field `" ++ Member.template.name ++ "`"
  | repeated member => "duplicate field `" ++ member.name ++ "`"
  | emptySequence =>
    "invalid length 0, expected " ++ Expectation.rule.describe ++ " with 2 elements"
  | longSequence length =>
    "invalid length " ++ toString length ++ ", expected fewer elements in array"

/-- Why a text could not be read: it is not JSON, or JSON of another shape. -/
inductive ReadError
  | fault (fault : Json.Fault)
  | mismatch (mismatch : Mismatch)

/-- The encoding with a given name. -/
def Encoding.named (name : String) : Except Mismatch Encoding :=
  match ofName? name with
  | some encoding => .ok encoding
  | none => .error (.unknownEncoding name)

end RecordTemplate
