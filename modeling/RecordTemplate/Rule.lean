import RecordTemplate.Description
import RecordTemplate.Log
import RecordTemplate.Template.Evaluation

/-!
Rules: a template together with the encoding that its output needs. The choice is made once, when
the rule is built, and holds for every record.
-/

set_option autoImplicit false
set_option relaxedAutoImplicit false

namespace RecordTemplate

structure Rule where
  template : Template
  encoding : Encoding
  deriving DecidableEq, Repr

namespace Rule

/-- The rule of a template source. Identifiers have their references percent-encoded. -/
def ofSource (source : String) (encodeReferences : Bool) : Rule :=
  ⟨Template.parse source, Encoding.ofBool encodeReferences⟩

/-- The rule that has the same output for every record. -/
def ofValue (value : String) : Rule :=
  ⟨Template.constant value, .raw⟩

/-- The output for a record. That there is none is logged. -/
def apply (rule : Rule) (record : Record) : Logged (Option String) :=
  match rule.template.evaluate record rule.encoding with
  | .ok output => ⟨some output, []⟩
  | .error missing => ⟨none, [.noOutput rule.template.source missing]⟩

/-- The outputs of several rules for one record. -/
def applyEach (rules : List Rule) (record : Record) : Logged (List (Option String)) :=
  Logged.sequence (rules.map (apply · record))

def describe (rule : Rule) : Form :=
  .labelled "TemplateFunction"
    [("template", rule.template.describe), ("encoding", rule.encoding.describe)]

end Rule

end RecordTemplate
