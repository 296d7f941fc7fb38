import RecordTemplate.Interchange.Mismatch
import RecordTemplate.Json.Reader
import RecordTemplate.Rule

/-!
Templates, encodings and rules as JSON values. A template is written as its source, an encoding as
its name, and a rule as an object of the two. An encoding may also be given as an object with its
name as only member and no value, and a rule as a list of its template and, if it is not the
default, its encoding.

A repeated member of an object counts with its last value. The members of a rule are looked at in
the order of their names, so the encoding comes before the template.
-/

set_option autoImplicit false
set_option relaxedAutoImplicit false

namespace RecordTemplate

/-! ### Writing -/

def Template.toJson (template : Template) : Json :=
  .string template.source

def Encoding.toJson (encoding : Encoding) : Json :=
  .string encoding.name

def Rule.toJson (rule : Rule) : Json :=
  .object [(Member.template.name, rule.template.toJson),
    (Member.encoding.name, rule.encoding.toJson)]

/-! ### Members -/

/-- The value that a name has in an object. -/
def Json.member? (members : List (String × Json)) (name : String) : Option Json :=
  members.reverse.lookup name

/-- The name of all members of an object, if they have one name. -/
def Json.onlyName? : List (String × Json) → Option String
  | [] => none
  | (name, _) :: members => if members.all (·.1 == name) then some name else none

/-! ### Conversion -/

def Template.ofJson : Json → Except Mismatch Template
  | .string source => .ok (parse source)
  | value => .error (.wrongType value.found .template)

def Encoding.ofJson : Json → Except Mismatch Encoding
  | .string name => named name
  | .object members =>
    match Json.onlyName? members with
    | none => .error .notOneName
    | some name => do
      let encoding ← named name
      match Json.member? members name with
      | none | some .null => .ok encoding
      | some value => .error (.wrongType value.found .unit)
  | value => .error (.wrongType value.found .encoding)

namespace Rule

/-- The rule of an object, given the values of its members. -/
def ofMembers (template? encoding? : Option Json) : Except Mismatch Rule := do
  let encoding ← encoding?.elim (.ok .raw) Encoding.ofJson
  match template? with
  | none => .error .noTemplate
  | some template => return ⟨← Template.ofJson template, encoding⟩

/-- The rule of a list. That it is too long is found out last. -/
def ofItems : List Json → Except Mismatch Rule
  | [] => .error .emptySequence
  | template :: rest => do
    let template ← Template.ofJson template
    let encoding ← rest.head?.elim (.ok .raw) Encoding.ofJson
    if rest.length ≤ 1 then .ok ⟨template, encoding⟩
    else .error (.longSequence (rest.length + 1))

def ofJson : Json → Except Mismatch Rule
  | .object members =>
    ofMembers (Json.member? members Member.template.name)
      (Json.member? members Member.encoding.name)
  | .array items => ofItems items
  | value => .error (.wrongType value.found .rule)

end Rule

/-! ### From text by way of a value -/

/-- What a text stands for, by way of the JSON value that it is. -/
def Json.convert {α : Type} (ofJson : Json → Except Mismatch α) (text : String) :
    Except ReadError α := do
  let value ← (Json.parse text).mapError .fault
  (ofJson value).mapError .mismatch

end RecordTemplate
