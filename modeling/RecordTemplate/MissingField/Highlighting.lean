import RecordTemplate.MissingField
import RecordTemplate.Template.Segment
import RecordTemplate.Text.Line
import RecordTemplate.Text.Width
import RecordTemplate.Text.Writer

/-!
The highlighting of a missing field: the line of the source with its reference, and carets below
the name. It is written fragment by fragment, and every write is checked. The offsets of the field
may belong to another source; they may cut a character in two then, and the highlighting aborts,
though the line has been written before.
-/

set_option autoImplicit false
set_option relaxedAutoImplicit false

namespace RecordTemplate.MissingField

/-- A line wider than this is not highlighted. -/
def maxLineWidth : Nat := 60

/-- The line of a source on which the missing name starts. -/
def line? (missing : MissingField) (source : String) : Option Text.Line :=
  Text.lineAt? missing.position source.toList

/-- The part of a line to underline, as offsets into the line. A name can span lines: only the part
on the first one is underlined. -/
def rangeOn (missing : MissingField) (line : Text.Line) : ByteRange :=
  ⟨missing.position - line.start,
    min (missing.position - line.start + missing.size) (Text.byteSize line.text)⟩

section Write

variable {σ : Type} [Writer σ]

/-- Spaces below the part of a line before a range and carets below the range, as many as these are
wide. -/
def writeUnderline (width : List Char → Nat) (line : List Char) (range : ByteRange) :
    Writing σ Unit := do
  let before ← .demand (Text.between? 0 range.start line)
  let name ← .demand (Text.between? range.start range.stop line)
  .write (String.ofList (List.replicate (width before) ' '))
  .write (String.ofList (List.replicate (width name) '^'))

/-- The line, and below it carets for the part of the name that is on the line, with texts as wide
as a measure says. -/
def highlightingBy (width : List Char → Nat) (missing : MissingField) (source : String) :
    Writing σ Unit := do
  let line ← .demand (missing.line? source)
  if width line.text > maxLineWidth then
    return
  .write "  "
  .write (String.ofList line.text)
  .write "\n  "
  writeUnderline width line.text (missing.rangeOn line)
  .write "\n"

/-- The highlighting in the columns of a terminal. -/
def highlighting (missing : MissingField) (source : String) : Writing σ Unit :=
  missing.highlightingBy Text.width source

end Write

end RecordTemplate.MissingField
