import RecordTemplate.Encoding
import RecordTemplate.MissingField
import RecordTemplate.Record
import RecordTemplate.Template
import RecordTemplate.Text.Quoted

/-!
Descriptions of templates and their parts for people who look into a program. A description is a
tree of labelled groups (`Form`) that is laid out on one line (`inline`) or with one item a line
(`indented`).
-/

set_option autoImplicit false
set_option relaxedAutoImplicit false

namespace RecordTemplate

/-! ### Forms and their layouts -/

/-- The kinds of groups: what stands around the items. -/
inductive Bracket
  | parentheses (name : String)
  | braces (name : String)
  | square
  deriving DecidableEq, Repr

namespace Bracket

def opening : Bracket → String
  | parentheses name => name ++ "("
  | braces name => name ++ " \x7b"
  | square => "["

def closing : Bracket → String
  | parentheses _ => ")"
  | braces _ => "\x7d"
  | square => "]"

/-- What separates a bracket from the items on the same line. -/
def padding : Bracket → String
  | braces _ => " "
  | parentheses _ | square => ""

end Bracket

inductive Form
  | atom (text : String)
  /-- Items in brackets, each with a label, which may be empty. -/
  | group (bracket : Bracket) (items : List (String × Form))

namespace Form

def text (text : String) : Form := atom (Text.quote text)

def number (value : Nat) : Form := atom (toString value)

def tuple (name : String) (fields : List Form) : Form :=
  group (.parentheses name) (fields.map fun field ↦ ("", field))

def labelled (name : String) (fields : List (String × Form)) : Form :=
  group (.braces name) (fields.map fun (label, field) ↦ (label ++ ": ", field))

def list (items : List Form) : Form :=
  group .square (items.map fun item ↦ ("", item))

mutual

/-- A form on one line. -/
def inline : Form → String
  | atom text => text
  | group bracket items =>
    bracket.opening ++ bracket.padding ++ ", ".intercalate (inlineItems items) ++ bracket.padding ++
      bracket.closing

def inlineItems : List (String × Form) → List String
  | [] => []
  | (label, item) :: items => (label ++ item.inline) :: inlineItems items

end

mutual

/-- A form with each item of a group on a line of its own and a comma behind each. The lines inside
a group are indented by four spaces more than the group. -/
def indentedBelow (margin : String) : Form → String
  | atom text => text
  | group bracket [] => bracket.opening ++ bracket.closing
  | group bracket (item :: items) =>
    bracket.opening ++ "\n" ++ indentedItems (margin ++ "    ") (item :: items) ++ margin ++
      bracket.closing

def indentedItems (margin : String) : List (String × Form) → String
  | [] => ""
  | (label, item) :: items =>
    margin ++ label ++ item.indentedBelow margin ++ ",\n" ++ indentedItems margin items

end

def indented (form : Form) : String := form.indentedBelow ""

end Form

/-! ### The descriptions -/

def ByteRange.describe (range : ByteRange) : Form :=
  .atom (toString range.start ++ ".." ++ toString range.stop)

def Segment.describe (segment : Segment) : Form :=
  match segment.part with
  | .constant text =>
    .tuple "Constant"
      [.labelled "Constant" [("text", .text text), ("range", segment.range.describe)]]
  | .reference name =>
    .tuple "Reference"
      [.labelled "Reference" [("name", .text name), ("range", segment.range.describe)]]

/-- A template is described by its source. -/
def Template.describe (template : Template) : Form :=
  .tuple "Template" [.text template.source]

def Encoding.describe : Encoding → Form
  | raw => .atom "Raw"
  | percent => .atom "PercentEncodeReferences"

def MissingField.describe (missing : MissingField) : Form :=
  .labelled "MissingReference"
    [("position", .number missing.position), ("len", .number missing.size),
      ("name", .text missing.name)]

/-- The record without fields is described by its name. -/
def Record.describeEmpty : Form := .atom "EmptyRecord"

/-- A computed record cannot be looked into. -/
def Record.describeComputed : Form := .atom "FnLookup(..)"

end RecordTemplate
