import RecordTemplate.Proofs.Constants
import RecordTemplate.Proofs.PercentEncoding

/-!
Outputs with percent-encoded values. The encoding has no part in whether there is an output, nor in
which field is reported as missing (`evaluate_eq_error_iff_raw`). Where the constants of a template
have no `%` of their own, decoding the output with encoded values gives the bytes of the output with
the values as they are (`decode_evaluate_percent`). And where they have no braces, the output has
none either (`Part.brace_not_mem_output`): it can be read as a template in turn, and whatever the
values were, it stands for itself only (`parse_evaluate?_percent`).
-/

set_option autoImplicit false
set_option relaxedAutoImplicit false

namespace RecordTemplate

/-! ### Decoded outputs -/

/-- The encoding does not decide which field is missing. -/
theorem evaluate_eq_error_iff_raw {template : Template} {record : Record} {missing : MissingField}
    (encoding : Encoding) : template.evaluate record encoding = .error missing ↔
      template.evaluate record .raw = .error missing := by
  rw [Template.evaluate_eq_error_iff, Template.evaluate_eq_error_iff]

theorem Part.decode_output (values : String → String) {parts : List Part}
    (hconstants : ∀ part ∈ parts, part.isConstant → '%' ∉ part.text.toList) :
    Percent.decode (output values .percent parts).toList =
      Text.bytes (output values .raw parts).toList := by
  induction parts with
  | nil => rfl
  | cons part parts ih =>
    obtain ⟨hpart, hothers⟩ := List.forall_mem_cons.mp hconstants
    rw [output_cons, output_cons, String.toList_append, String.toList_append, Text.bytes_append,
      ← ih hothers]
    cases part with
    | constant text => exact Percent.decode_append_of_not_mem (hpart rfl) _
    | reference name => exact Percent.decode_encode_append (values name) _

/-- Percent encoding changes neither whether a template has an output nor which field is missing,
and it can be undone on the whole output if no constant has a `%`. -/
theorem decode_evaluate_percent (template : Template) (record : Record) :
    (∀ missing, template.evaluate record .percent = .error missing ↔
        template.evaluate record .raw = .error missing) ∧
      ∀ encoded raw, template.evaluate record .percent = .ok encoded →
        template.evaluate record .raw = .ok raw →
          (∀ part ∈ template.parts, part.isConstant → '%' ∉ part.text.toList) →
            Percent.decode encoded.toList = Text.bytes raw.toList := by
  refine ⟨fun missing ↦ evaluate_eq_error_iff_raw .percent, ?_⟩
  intro encoded raw hencoded hraw hconstants
  obtain ⟨values, hvalues, rfl⟩ := Template.evaluate_eq_ok_iff.mp hencoded
  rw [Template.evaluate_of_values hvalues, Except.ok.injEq] at hraw
  rw [← hraw]
  exact Part.decode_output values hconstants

/-- A value that looks like an encoded byte, an empty one and one outside ASCII, all undone. -/
theorem decode_evaluate_percent_path :
    let template := Template.parse "\x7bx\x7d4\x7by\x7d1\x7bz\x7d"
    let record := Record.ofPairs [("x", "%"), ("y", ""), ("z", "%41é")]
    template.evaluate record .percent = .ok "%2541%2541%C3%A9" ∧
      template.evaluate record .raw = .ok "%41%41é" ∧
      (∀ part ∈ template.parts, part.isConstant → '%' ∉ part.text.toList) ∧
      Percent.decode "%2541%2541%C3%A9".toList = Text.bytes "%41%41é".toList := by
  intro template record
  have hencoded : template.evaluate record .percent = .ok "%2541%2541%C3%A9" := by
    decide +kernel
  have hraw : template.evaluate record .raw = .ok "%41%41é" := by decide +kernel
  have hconstants : ∀ part ∈ template.parts, part.isConstant → '%' ∉ part.text.toList := by
    decide +kernel
  exact ⟨hencoded, hraw, hconstants,
    (decode_evaluate_percent template record).2 _ _ hencoded hraw hconstants⟩

/-! ### Outputs without braces -/

theorem Percent.brace_not_mem_encode (brace : Brace) (text : String) :
    brace.char ∉ (encode text).toList := by
  intro hmem
  have hencoded := isEncoded_of_mem_encode hmem
  cases brace <;> exact absurd hencoded (by decide)

/-- A brace in an output with encoded values stands in a constant. -/
theorem Part.brace_not_mem_output (values : String → String) {parts : List Part} {brace : Brace}
    (hconstants : ∀ part ∈ parts, part.isConstant → brace.char ∉ part.text.toList) :
    brace.char ∉ (output values .percent parts).toList := by
  rw [mem_output_iff]
  rintro ⟨part, hpart, hbrace⟩
  cases part with
  | constant text => exact hconstants _ hpart rfl hbrace
  | reference name => exact Percent.brace_not_mem_encode brace (values name) hbrace

theorem escapeBraces_of_not_mem {text : List Char} (htext : ∀ brace : Brace, brace.char ∉ text) :
    escapeBraces text = text := by
  induction text with
  | nil => rfl
  | cons c text ih =>
    have hc : Brace.ofChar? c = none := by
      refine Option.eq_none_iff_forall_ne_some.mpr fun brace hbrace ↦ htext brace ?_
      rw [Brace.ofChar?_eq_some_iff.mp hbrace]
      exact List.mem_cons_self
    have hrest := ih fun brace hmem ↦ htext brace (List.mem_cons_of_mem c hmem)
    rw [escapeBraces] at hrest ⊢
    rw [List.flatMap_cons, hrest, hc]
    rfl

/-- A source without braces is read as the constant that it is. -/
theorem parse_eq_constant {source : String}
    (hsource : ∀ brace : Brace, brace.char ∉ source.toList) :
    Template.parse source = Template.constant source := by
  have hparse := parse_source_constant source
  rw [source_constant, escapeBraces_of_not_mem hsource, String.ofList_toList] at hparse
  exact hparse

theorem references_constant (value : String) : (Template.constant value).references = [] := by
  rw [Template.references, parts_constant]
  split <;> rfl

theorem length_segments_constant (value : String) :
    (Template.constant value).segments.length ≤ 1 := by
  rw [segments_constant]
  split
  · exact Nat.zero_le 1
  · exact Nat.le_refl 1

/-- No value of a record can bring a reference, or any other template syntax, into an output with
encoded values: read as a template, the output has no references and evaluates to itself. -/
theorem parse_evaluate?_percent {template : Template}
    (hconstants : ∀ part ∈ template.parts, part.isConstant →
      ∀ brace : Brace, brace.char ∉ part.text.toList)
    {record : Record} {output : String}
    (houtput : template.evaluate? record .percent = some output) :
    (Template.parse output).references = [] ∧ (Template.parse output).segments.length ≤ 1 ∧
      ∀ other encoding, (Template.parse output).evaluate? other encoding = some output := by
  obtain ⟨values, -, rfl⟩ := Template.evaluate?_eq_some_iff.mp houtput
  have hparse := parse_eq_constant fun brace ↦ Part.brace_not_mem_output values
    fun part hpart hconstant ↦ hconstants part hpart hconstant brace
  rw [hparse]
  exact ⟨references_constant _, length_segments_constant _, evaluate?_constant _⟩

/-- Values that are a reference and an escaped brace, with a backslash of the template between
them. -/
theorem parse_evaluate?_percent_backslash :
    let template := Template.parse "\x7bx\x7d\\-\x7by\x7d\\"
    let record := Record.ofPairs [("x", "\x7bx\x7d"), ("y", "\\\x7d")]
    (∀ part ∈ template.parts, part.isConstant → ∀ brace : Brace, brace.char ∉ part.text.toList) ∧
      template.evaluate? record .percent = some "%7Bx%7D\\-%5C%7D\\" ∧
      (Template.parse "%7Bx%7D\\-%5C%7D\\").references = [] ∧
      ∀ other encoding, (Template.parse "%7Bx%7D\\-%5C%7D\\").evaluate? other encoding =
        some "%7Bx%7D\\-%5C%7D\\" := by
  intro template record
  have hbrace (brace : Brace) :
      ∀ part ∈ template.parts, part.isConstant → brace.char ∉ part.text.toList := by
    cases brace <;> decide +kernel
  have hconstants : ∀ part ∈ template.parts, part.isConstant →
      ∀ brace : Brace, brace.char ∉ part.text.toList :=
    fun part hpart hconstant brace ↦ hbrace brace part hpart hconstant
  have houtput : template.evaluate? record .percent = some "%7Bx%7D\\-%5C%7D\\" := by
    decide +kernel
  obtain ⟨hreferences, -, hitself⟩ := parse_evaluate?_percent hconstants houtput
  exact ⟨hconstants, houtput, hreferences, hitself⟩

end RecordTemplate
