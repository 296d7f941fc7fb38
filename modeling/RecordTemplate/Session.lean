import RecordTemplate.Batch
import RecordTemplate.Interchange.Direct.Rule

/-!
Sessions: sequences of steps that build templates from texts and from each other, keep them in named
slots, and evaluate and compare them. A step that names an empty slot ends the session.
-/

set_option autoImplicit false
set_option relaxedAutoImplicit false

namespace RecordTemplate

/-- The two ways to a template from a text. -/
inductive Origin
  | source
  | value
  deriving DecidableEq, Repr

/-- The template of a text that is taken as its source, or as the value of a constant. -/
def Origin.template : Origin → String → Template
  | source, text => Template.parse text
  | value, text => Template.constant text

/-- The ways to a template from another one. -/
inductive Derivation
  | copy
  /-- From the text of the source. -/
  | ofSource (origin : Origin)
  /-- From the text that the parts are written back as. -/
  | ofRendering (origin : Origin)
  /-- Written as JSON and read again. -/
  | exchange
  deriving DecidableEq, Repr

def Derivation.apply : Derivation → Template → Except ReadError Template
  | copy, template => .ok template
  | ofSource origin, template => .ok (origin.template template.source)
  | ofRendering origin, template => .ok (origin.template template.render)
  | exchange, template => Direct.read Direct.readTemplate template.toJson.render

namespace Session

inductive Step
  | create (origin : Origin) (text into : String)
  | derive (derivation : Derivation) (slot into : String)
  | evaluate (slot : String) (record : Record) (encoding : Encoding)
  /-- The output of a template, if it has one, becomes a template in turn. -/
  | evaluateInto (origin : Origin) (slot : String) (record : Record) (encoding : Encoding)
    (into : String)
  | compare (first second : String)
  | join (slots : List String) (record : Record) (encoding : Encoding) (separator : String)

inductive Answer
  | template (template : Template)
  | evaluated (template : Template) (result : Except MissingField String)
  /-- There was no output, and no slot has changed. -/
  | nothing
  | comparison (templatesEqual segmentsEqual : Bool)
  | joined (result : Logged (Option String))

/-- The templates in their slots, the latest first. -/
abbrev Slots := List (String × Template)

inductive Failure
  | emptySlot (slot : String)
  | exchange (error : ReadError)

def Slots.get (slots : Slots) (slot : String) : Except Failure Template :=
  match slots.lookup slot with
  | some template => .ok template
  | none => .error (.emptySlot slot)

def Slots.put (slots : Slots) (slot : String) (template : Template) : Slots :=
  (slot, template) :: slots

/-- The answer to a step, and the slots behind it. -/
def Slots.step (slots : Slots) : Step → Except Failure (Answer × Slots)
  | .create origin text into =>
    let template := origin.template text
    .ok (.template template, slots.put into template)
  | .derive derivation slot into => do
    let template ← (derivation.apply (← slots.get slot)).mapError .exchange
    return (.template template, slots.put into template)
  | .evaluate slot record encoding => do
    let template ← slots.get slot
    return (.evaluated template (template.evaluate record encoding), slots)
  | .evaluateInto origin slot record encoding into => do
    match (← slots.get slot).evaluate? record encoding with
    | none => return (.nothing, slots)
    | some output =>
      let template := origin.template output
      return (.template template, slots.put into template)
  | .compare first second => do
    let first ← slots.get first
    let second ← slots.get second
    return (.comparison (first == second) (first.segments == second.segments), slots)
  | .join names record encoding separator => do
    let templates ← names.mapM slots.get
    let batch : Batch := templates.map (·, record)
    return (.joined (batch.joined encoding separator), slots)

/-- The answers to the steps of a session, and the slots at its end. -/
def run (slots : Slots) : List Step → Except Failure (List Answer × Slots)
  | [] => .ok ([], slots)
  | step :: steps => do
    let (answer, slots) ← slots.step step
    let (answers, slots) ← run slots steps
    return (answer :: answers, slots)

end Session

end RecordTemplate
