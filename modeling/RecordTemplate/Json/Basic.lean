import RecordTemplate.Json.Number
import RecordTemplate.Json.StringLiteral

/-!
JSON values and their text. Numbers keep their written form, and the members of an object keep
their order and their repetitions.
-/

set_option autoImplicit false
set_option relaxedAutoImplicit false

namespace RecordTemplate

inductive Json
  | null
  | bool (value : Bool)
  | number (written : Json.Number)
  | string (value : String)
  | array (items : List Json)
  | object (members : List (String × Json))

namespace Json

mutual

/-- A value as text without blanks. -/
def chars : Json → List Char
  | null => ['n', 'u', 'l', 'l']
  | bool true => ['t', 'r', 'u', 'e']
  | bool false => ['f', 'a', 'l', 's', 'e']
  | number written => written.chars
  | string value => StringLiteral.encode value.toList
  | array items => '[' :: ((itemChars items).intersperse [',']).flatten ++ [']']
  | object members => '{' :: ((memberChars members).intersperse [',']).flatten ++ ['}']

def itemChars : List Json → List (List Char)
  | [] => []
  | item :: items => item.chars :: itemChars items

def memberChars : List (String × Json) → List (List Char)
  | [] => []
  | (name, value) :: members =>
    (StringLiteral.encode name.toList ++ ':' :: value.chars) :: memberChars members

end

def render (value : Json) : String := String.ofList value.chars

end Json

end RecordTemplate
