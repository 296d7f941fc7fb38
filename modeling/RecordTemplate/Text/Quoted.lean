import RecordTemplate.Text.Unprintable

/-!
Quoted texts, for messages and descriptions. The quote and the backslash get a backslash, four
controls have short forms, and every other unprintable character is shown as its code point.
-/

set_option autoImplicit false
set_option relaxedAutoImplicit false

namespace RecordTemplate.Text

/-- A character as it is shown in a quoted text. -/
def quoteChar (c : Char) : List Char :=
  match c with
  | '"' => ['\\', '"']
  | '\\' => ['\\', '\\']
  | '\t' => ['\\', 't']
  | '\r' => ['\\', 'r']
  | '\n' => ['\\', 'n']
  | '\x00' => ['\\', '0']
  | c =>
    if c.toNat < 0x7F && 0x20 ≤ c.toNat then [c]
    else if unprintable.contains c then
      ['\\', 'u', '\x7b'] ++ Nat.toDigits 16 c.toNat ++ ['\x7d']
    else [c]

def quote (text : String) : String :=
  String.ofList ('"' :: text.toList.flatMap quoteChar ++ ['"'])

end RecordTemplate.Text
