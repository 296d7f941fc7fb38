import RecordTemplate.Log
import RecordTemplate.Template.Evaluation

/-!
Batches: templates that are evaluated each against its own record, all with one encoding. A batch
has outputs only if every template of it has one; the first that has none is logged with its place
in the batch, and those behind it are not evaluated.
-/

set_option autoImplicit false
set_option relaxedAutoImplicit false

namespace RecordTemplate

abbrev Batch := List (Template × Record)

namespace Batch

/-- The outputs of a batch whose first template has a given index. -/
def outputsFrom (encoding : Encoding) (index : Nat) : Batch → Logged (Option (List String))
  | [] => ⟨some [], []⟩
  | (template, record) :: batch =>
    match template.evaluate record encoding with
    | .ok output =>
      let rest := outputsFrom encoding (index + 1) batch
      { rest with value := rest.value.map (output :: ·) }
    | .error missing => ⟨none, [.noOutputAt index template.source missing]⟩

/-- The outputs of a batch, in order. -/
def outputs (batch : Batch) (encoding : Encoding) : Logged (Option (List String)) :=
  outputsFrom encoding 0 batch

/-- The outputs of a batch as one text, with a separator between each two. -/
def joined (batch : Batch) (encoding : Encoding) (separator : String) : Logged (Option String) :=
  let result := batch.outputs encoding
  { result with value := result.value.map separator.intercalate }

end Batch

end RecordTemplate
