import RecordTemplate.Text.Utf8

/-!
The lines of a text. A line feed and a carriage return each end a line, so the pair of them holds an
empty line between. An offset that is the one of a line break lies on the line that the break ends.
-/

set_option autoImplicit false
set_option relaxedAutoImplicit false

namespace RecordTemplate.Text

def isLineBreak (c : Char) : Bool :=
  c == '\n' || c == '\r'

/-- The lines of a text, without their breaks. A text without a break is one line. -/
def lines (text : List Char) : List (List Char) :=
  text.foldr (fun c lines ↦
    match lines with
    | line :: rest => if isLineBreak c then [] :: lines else (c :: line) :: rest
    | [] => [[c]]) [[]]

/-- A line of a text and the byte offset at which it starts. -/
structure Line where
  start : Nat
  text : List Char
  deriving DecidableEq, Repr

/-- The first of the lines, of which the first starts at `start`, that ends at an offset or behind
it. A line break takes one byte. -/
def findLine? (offset start : Nat) : List (List Char) → Option Line
  | [] => none
  | line :: rest =>
    if offset ≤ start + byteSize line then some ⟨start, line⟩
    else findLine? offset (start + byteSize line + 1) rest

/-- The line of a text on which a byte offset lies, if it is not behind the end of the text. -/
def lineAt? (offset : Nat) (text : List Char) : Option Line :=
  findLine? offset 0 (lines text)

end RecordTemplate.Text
