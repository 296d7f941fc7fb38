import Mathlib.Data.List.Forall2
import RecordTemplate.Proofs.Joining

/-!
Batches. Pairs that have outputs put these in front of what comes behind them, and move the index at
which something is logged on by their number (`Batch.outputsFrom_append`). So a batch of such pairs
has their outputs and logs nothing (`Batch.outputs_of_hasOutputs`), and a batch whose first failure
is at some index has no output and logs that index (`Batch.outputsFrom_of_failsAt`), whatever
follows. One of the two is always the case (`Batch.hasOutputs_or_failsAt`). All that is said of two
batches in a row and of joined outputs comes from these laws (`outcome_outputs`).
-/

set_option autoImplicit false
set_option relaxedAutoImplicit false

namespace RecordTemplate

namespace Batch

/-! ### Outputs and failures -/

/-- A template has this output for its record. -/
def Yields (encoding : Encoding) (pair : Template × Record) (output : String) : Prop :=
  pair.1.evaluate pair.2 encoding = .ok output

/-- The pairs of a batch have these outputs, one each and in order. -/
def HasOutputs (batch : Batch) (encoding : Encoding) (outputs : List String) : Prop :=
  List.Forall₂ (Yields encoding) batch outputs

/-- The first pair without an output stands at this index, its template has this source, and this is
what its record lacks. -/
structure FailsAt (batch : Batch) (encoding : Encoding) (index : Nat) (source : String)
    (missing : MissingField) : Prop where
  before : ∀ pair ∈ batch.take index, ∃ output, Yields encoding pair output
  fails : ∃ template record, batch[index]? = some (template, record) ∧ template.source = source ∧
    template.evaluate record encoding = .error missing

/-- What is to be expected of a batch. Either every pair has an output, or the first one that has
none is logged. -/
structure Outcome (batch : Batch) (encoding : Encoding) (result : Logged (Option (List String))) :
    Prop where
  isSome_iff : result.value.isSome ↔ ∀ pair ∈ batch, ∃ output, Yields encoding pair output
  of_some : ∀ outputs, result.value = some outputs →
    batch.HasOutputs encoding outputs ∧ result.log = []
  of_none : result.value = none → ∃ index source missing,
    batch.FailsAt encoding index source missing ∧
      result.log = [.noOutputAt index source missing]

variable {encoding : Encoding} {batch passed : Batch} {outputs : List String}
variable {index : Nat} {source : String} {missing : MissingField}

theorem exists_hasOutputs_iff :
    (∃ outputs, batch.HasOutputs encoding outputs) ↔
      ∀ pair ∈ batch, ∃ output, Yields encoding pair output := by
  induction batch with
  | nil => exact ⟨fun _ ↦ List.forall_mem_nil _, fun _ ↦ ⟨[], .nil⟩⟩
  | cons pair batch ih =>
    rw [List.forall_mem_cons, ← ih]
    constructor
    -- the first output belongs to the first pair
    · rintro ⟨_, hpair | ⟨hpair, hbatch⟩⟩
      exact ⟨⟨_, hpair⟩, ⟨_, hbatch⟩⟩
    · rintro ⟨⟨output, hpair⟩, ⟨outputs, hbatch⟩⟩
      exact ⟨output :: outputs, .cons hpair hbatch⟩

theorem failsAt_iff : batch.FailsAt encoding index source missing ↔
    ∃ before template record after, batch = before ++ (template, record) :: after ∧
      before.length = index ∧ (∀ pair ∈ before, ∃ output, Yields encoding pair output) ∧
      template.source = source ∧ template.evaluate record encoding = .error missing := by
  constructor
  · rintro ⟨hbefore, template, record, hget, hsource, herror⟩
    obtain ⟨hlt, hpair⟩ := List.getElem?_eq_some_iff.mp hget
    refine ⟨batch.take index, template, record, batch.drop (index + 1), ?_, ?_, hbefore, hsource,
      herror⟩
    · rw [← hpair, List.getElem_cons_drop, List.take_append_drop]
    · exact List.length_take_of_le hlt.le
  · rintro ⟨before, template, record, after, rfl, rfl, hbefore, hsource, herror⟩
    constructor
    -- the index is the length of what stands before
    · rw [List.take_left]
      exact hbefore
    · refine ⟨template, record, ?_, hsource, herror⟩
      rw [List.getElem?_append_right le_rfl, Nat.sub_self, List.getElem?_cons_zero]

theorem hasOutputs_or_failsAt (batch : Batch) (encoding : Encoding) :
    (∃ outputs, batch.HasOutputs encoding outputs) ∨
      ∃ index source missing, batch.FailsAt encoding index source missing := by
  rcases all_or_first (fun pair ↦ ∃ output, Yields encoding pair output) batch with
    hall | ⟨before, ⟨template, record⟩, after, hbatch, hbefore, hpair⟩
  · exact Or.inl (exists_hasOutputs_iff.mpr hall)
  · cases hresult : template.evaluate record encoding with
    | ok output => exact absurd ⟨output, hresult⟩ hpair
    | error missing =>
      exact Or.inr ⟨before.length, template.source, missing, failsAt_iff.mpr
        ⟨before, template, record, after, hbatch, rfl, hbefore, rfl, hresult⟩⟩

/-! ### Runs -/

/-- A result with outputs put in front of its own. -/
def behind (outputs : List String) (result : Logged (Option (List String))) :
    Logged (Option (List String)) :=
  { result with value := result.value.map (outputs ++ ·) }

theorem behind_nil (result : Logged (Option (List String))) : behind [] result = result := by
  obtain ⟨_ | outputs, log⟩ := result <;> rfl

theorem behind_cons (output : String) (outputs : List String)
    (result : Logged (Option (List String))) :
    behind (output :: outputs) result = behind [output] (behind outputs result) := by
  obtain ⟨_ | own, log⟩ := result <;> rfl

theorem outputsFrom_cons_of_yields {pair : Template × Record} {output : String}
    (hpair : Yields encoding pair output) (batch : Batch) (index : Nat) :
    outputsFrom encoding index (pair :: batch) =
      behind [output] (outputsFrom encoding (index + 1) batch) := by
  obtain ⟨template, record⟩ := pair
  rw [outputsFrom, show template.evaluate record encoding = .ok output from hpair]
  rfl

theorem outputsFrom_cons_of_error {template : Template} {record : Record}
    (hpair : template.evaluate record encoding = .error missing) (batch : Batch) (index : Nat) :
    outputsFrom encoding index ((template, record) :: batch) =
      ⟨none, [.noOutputAt index template.source missing]⟩ := by
  rw [outputsFrom, hpair]

/-- Pairs that have outputs put them in front and move the indices behind them on. The induction is
on these pairs, with the index that they start from left open. -/
theorem outputsFrom_append (hpassed : passed.HasOutputs encoding outputs) (batch : Batch)
    (index : Nat) : outputsFrom encoding index (passed ++ batch) =
      behind outputs (outputsFrom encoding (index + passed.length) batch) := by
  induction hpassed generalizing index with
  | nil =>
    rw [behind_nil]
    rfl
  | @cons pair output passed outputs hpair _ ih =>
    have hindex : index + 1 + passed.length = index + (pair :: passed).length := by
      rw [List.length_cons, Nat.add_assoc, Nat.add_comm 1]
    rw [List.cons_append, outputsFrom_cons_of_yields hpair, ih, ← behind_cons, hindex]

theorem outputs_of_hasOutputs (houtputs : batch.HasOutputs encoding outputs) :
    batch.outputs encoding = ⟨some outputs, []⟩ := by
  rw [Batch.outputs, ← List.append_nil batch, outputsFrom_append houtputs, outputsFrom, behind,
    Option.map_some, List.append_nil]

/-- The first failure ends the run, whatever stands behind it. -/
theorem outputsFrom_of_failsAt (hfails : batch.FailsAt encoding index source missing)
    (start : Nat) : outputsFrom encoding start batch =
      ⟨none, [.noOutputAt (start + index) source missing]⟩ := by
  obtain ⟨before, template, record, after, rfl, rfl, hbefore, rfl, herror⟩ :=
    failsAt_iff.mp hfails
  obtain ⟨outputs, houtputs⟩ := exists_hasOutputs_iff.mpr hbefore
  rw [outputsFrom_append houtputs, outputsFrom_cons_of_error herror]
  rfl

theorem outputs_of_failsAt (hfails : batch.FailsAt encoding index source missing) :
    batch.outputs encoding = ⟨none, [.noOutputAt index source missing]⟩ := by
  rw [Batch.outputs, outputsFrom_of_failsAt hfails, Nat.zero_add]

/-! ### Results -/

theorem hasOutputs_of_value (hvalue : (batch.outputs encoding).value = some outputs) :
    batch.HasOutputs encoding outputs := by
  rcases hasOutputs_or_failsAt batch encoding with
    ⟨others, houtputs⟩ | ⟨index, source, missing, hfails⟩
  · rw [outputs_of_hasOutputs houtputs, Option.some.injEq] at hvalue
    rwa [← hvalue]
  · rw [outputs_of_failsAt hfails] at hvalue
    contradiction

theorem outcome (batch : Batch) (encoding : Encoding) :
    batch.Outcome encoding (batch.outputs encoding) where
  isSome_iff := by
    rw [← exists_hasOutputs_iff, Option.isSome_iff_exists]
    refine exists_congr fun outputs ↦ ⟨hasOutputs_of_value, fun houtputs ↦ ?_⟩
    rw [outputs_of_hasOutputs houtputs]
  of_some := by
    intro outputs hvalue
    have houtputs := hasOutputs_of_value hvalue
    refine ⟨houtputs, ?_⟩
    rw [outputs_of_hasOutputs houtputs]
  of_none := by
    intro hvalue
    rcases hasOutputs_or_failsAt batch encoding with
      ⟨outputs, houtputs⟩ | ⟨index, source, missing, hfails⟩
    · rw [outputs_of_hasOutputs houtputs] at hvalue
      contradiction
    · refine ⟨index, source, missing, hfails, ?_⟩
      rw [outputs_of_failsAt hfails]

/-- Pairs behind the first failure do not matter. -/
theorem FailsAt.of_take_eq {other : Batch} (hfails : batch.FailsAt encoding index source missing)
    (htake : other.take (index + 1) = batch.take (index + 1)) :
    other.FailsAt encoding index source missing := by
  obtain ⟨hbefore, template, record, hget, hpair⟩ := hfails
  have hlt : index < index + 1 := Nat.lt_succ_self index
  constructor
  · have hfront := congrArg (List.take index) htake
    rw [List.take_take, List.take_take, Nat.min_eq_left hlt.le] at hfront
    rw [hfront]
    exact hbefore
  · refine ⟨template, record, ?_, hpair⟩
    rw [← List.getElem?_take_of_lt hlt, htake, List.getElem?_take_of_lt hlt, hget]

theorem FailsAt.append (hfails : batch.FailsAt encoding index source missing) (more : Batch) :
    (batch ++ more).FailsAt encoding index source missing := by
  obtain ⟨template, record, hget, -⟩ := hfails.fails
  have hlt := (List.getElem?_eq_some_iff.mp hget).1
  exact hfails.of_take_eq (List.take_append_of_le_length hlt)

theorem value_outputs_append (batch more : Batch) (encoding : Encoding) :
    ((batch ++ more).outputs encoding).value =
      (batch.outputs encoding).value.bind fun outputs ↦
        (more.outputs encoding).value.map (outputs ++ ·) := by
  rcases hasOutputs_or_failsAt batch encoding with
    ⟨outputs, houtputs⟩ | ⟨index, source, missing, hfails⟩
  · rw [outputs_of_hasOutputs houtputs, Option.bind_some, Batch.outputs,
      outputsFrom_append houtputs, behind, value_outputsFrom, Batch.outputs, value_outputsFrom]
  · rw [outputs_of_failsAt hfails, outputs_of_failsAt (hfails.append more), Option.bind_none]

/-- The index that is logged counts the pairs that had outputs before. -/
theorem outputs_append_of_failsAt {more : Batch} (houtputs : batch.HasOutputs encoding outputs)
    (hfails : more.FailsAt encoding index source missing) :
    (batch ++ more).outputs encoding =
      ⟨none, [.noOutputAt (batch.length + index) source missing]⟩ := by
  rw [Batch.outputs, outputsFrom_append houtputs, outputsFrom_of_failsAt hfails, Nat.zero_add]
  rfl

theorem failsAt_of_outputs
    (hresult : batch.outputs encoding = ⟨none, [.noOutputAt index source missing]⟩) :
    batch.FailsAt encoding index source missing := by
  rcases hasOutputs_or_failsAt batch encoding with
    ⟨outputs, houtputs⟩ | ⟨first, firstSource, firstMissing, hfails⟩
  · rw [outputs_of_hasOutputs houtputs] at hresult
    simp at hresult
  · rw [outputs_of_failsAt hfails] at hresult
    simp only [Logged.mk.injEq, List.cons.injEq, LogEntry.noOutputAt.injEq] at hresult
    obtain ⟨-, ⟨rfl, rfl, rfl⟩, -⟩ := hresult
    exact hfails

theorem value_joined_eq_some_iff {separator text : String} :
    (batch.joined encoding separator).value = some text ↔
      ∃ outputs, batch.HasOutputs encoding outputs ∧ text = separator.intercalate outputs := by
  rw [joined, Option.map_eq_some_iff]
  refine exists_congr fun outputs ↦ and_congr ⟨hasOutputs_of_value, fun houtputs ↦ ?_⟩ eq_comm
  rw [outputs_of_hasOutputs houtputs]

theorem value_joined_eq_none_iff {separator : String} :
    (batch.joined encoding separator).value = none ↔ (batch.outputs encoding).value = none := by
  rw [joined, Option.map_eq_none_iff]

end Batch

/-- The outputs of a batch are those of its pairs in order, and if a pair has none, the first such
pair is logged and the pairs behind it do not matter. Two batches in a row have their outputs in a
row, and a failure in the second one is logged at its place in both. Joined outputs are the outputs
with the separator between each two of them. -/
theorem outcome_outputs (batch : Batch) (encoding : Encoding) :
    batch.Outcome encoding (batch.outputs encoding) ∧
      (∀ index source missing, batch.FailsAt encoding index source missing →
        ∀ other : Batch, other.take (index + 1) = batch.take (index + 1) →
          other.outputs encoding = batch.outputs encoding) ∧
      (∀ more : Batch, ((batch ++ more).outputs encoding).value =
        (batch.outputs encoding).value.bind fun outputs ↦
          (more.outputs encoding).value.map (outputs ++ ·)) ∧
      (∀ (more : Batch) index source missing, (batch.outputs encoding).value.isSome →
        more.outputs encoding = ⟨none, [.noOutputAt index source missing]⟩ →
          (batch ++ more).outputs encoding =
            ⟨none, [.noOutputAt (batch.length + index) source missing]⟩) ∧
      ∀ separator,
        ((batch.joined encoding separator).value = none ↔
          (batch.outputs encoding).value = none) ∧
        ∀ text, (batch.joined encoding separator).value = some text ↔
          ∃ outputs, batch.HasOutputs encoding outputs ∧ text = separator.intercalate outputs := by
  refine ⟨Batch.outcome batch encoding, ?_,
    fun more ↦ Batch.value_outputs_append batch more encoding, ?_,
    fun separator ↦ ⟨Batch.value_joined_eq_none_iff, fun _ ↦ Batch.value_joined_eq_some_iff⟩⟩
  · intro index source missing hfails other htake
    rw [Batch.outputs_of_failsAt hfails, Batch.outputs_of_failsAt (hfails.of_take_eq htake)]
  · intro more index source missing hbatch hmore
    obtain ⟨outputs, hvalue⟩ := Option.isSome_iff_exists.mp hbatch
    exact Batch.outputs_append_of_failsAt (Batch.hasOutputs_of_value hvalue)
      (Batch.failsAt_of_outputs hmore)

/-- The second of two batches fails at its second pair, whether its third one is there or not. -/
theorem outcome_outputs_two_batches :
    let first : Batch := [(Template.parse "\x7ba\x7d", Record.ofPairs [("a", "x")]),
      (Template.constant "y", Record.empty)]
    let second : Batch := [(Template.parse "\x7ba\x7d", Record.ofPairs [("a", "z")]),
      (Template.parse "-\x7bb\x7d", Record.empty), (Template.parse "\x7bc\x7d", Record.empty)]
    first.outputs .raw = ⟨some ["x", "y"], []⟩ ∧
      second.FailsAt .raw 1 "-\x7bb\x7d" ⟨2, 1, "b"⟩ ∧
      Batch.outputs (second.take 2) .raw = second.outputs .raw ∧
      second.outputs .raw = ⟨none, [.noOutputAt 1 "-\x7bb\x7d" ⟨2, 1, "b"⟩]⟩ ∧
      (first ++ second).outputs .raw = ⟨none, [.noOutputAt 3 "-\x7bb\x7d" ⟨2, 1, "b"⟩]⟩ := by
  intro first second
  have hfirst : first.outputs .raw = ⟨some ["x", "y"], []⟩ := by decide +kernel
  have hsecond : second.outputs .raw = ⟨none, [.noOutputAt 1 "-\x7bb\x7d" ⟨2, 1, "b"⟩]⟩ := by
    decide +kernel
  have hfails := Batch.failsAt_of_outputs hsecond
  obtain ⟨-, hstops, -⟩ := outcome_outputs second .raw
  obtain ⟨-, -, -, happend, -⟩ := outcome_outputs first .raw
  refine ⟨hfirst, hfails, hstops _ _ _ hfails _ rfl, hsecond, happend _ _ _ _ ?_ hsecond⟩
  rw [hfirst]
  rfl

end RecordTemplate
