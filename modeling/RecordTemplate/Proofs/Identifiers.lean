import RecordTemplate.Proofs.Evaluation
import RecordTemplate.Proofs.PercentEncoding

/-!
Identifiers that templates make of records. If between every two successive references there is a
constant with a character that no encoded value contains (`Part.Separated`), then the output with
percent-encoded values determines the value of every field that the template refers to
(`record_eq_of_evaluate?_eq`). Up to the first separating character the output consists of one
encoded value and a text that does not depend on the record, so the value can be read off
(`Part.Separated.cancel`), and what follows that character is again such an output.
-/

set_option autoImplicit false
set_option relaxedAutoImplicit false

namespace RecordTemplate

namespace Part

/-! ### Separated references -/

/-- A part whose text has a character that no encoded value contains. -/
def Separates (part : Part) : Prop :=
  ∃ c ∈ part.text.toList, ¬ Percent.IsEncoded c

instance (part : Part) : Decidable part.Separates :=
  List.decidableBEx (fun c ↦ ¬ Percent.IsEncoded c) part.text.toList

/-- Among the constants between every two successive references there is a separating one. -/
def Separated (parts : List Part) : Prop :=
  ∀ before first between second after,
    parts = before ++ reference first :: (between ++ reference second :: after) →
      (∀ part ∈ between, part.isConstant) → ∃ part ∈ between, part.Separates

variable {parts : List Part}

theorem Separated.tail {part : Part} (h : Separated (part :: parts)) : Separated parts := by
  intro before first between second after hparts
  refine h (part :: before) first between second after ?_
  rw [hparts, List.cons_append]

/-- Parts are constants, or there are constants and behind them a reference. -/
theorem constants_or_reference (parts : List Part) :
    (∀ part ∈ parts, part.isConstant) ∨
      ∃ between name after, parts = between ++ reference name :: after ∧
        ∀ part ∈ between, part.isConstant := by
  rcases all_or_first (fun part : Part ↦ part.isConstant) parts with
    hconstants | ⟨between, part, after, hparts, hbetween, hpart⟩
  · exact Or.inl hconstants
  · cases part with
    | constant text => exact absurd rfl hpart
    | reference name => exact Or.inr ⟨between, name, after, hparts, hbetween⟩

/-- The references among parts and the constants that can separate them. -/
def landmarks (parts : List Part) : List Part :=
  parts.filter fun part ↦ part.isConstant → part.Separates

theorem mem_landmarks_iff {part : Part} :
    part ∈ landmarks parts ↔ part ∈ parts ∧ (part.isConstant → part.Separates) := by
  rw [landmarks, List.mem_filter, decide_eq_true_iff]

@[simp] theorem landmarks_append (first second : List Part) :
    landmarks (first ++ second) = landmarks first ++ landmarks second :=
  List.filter_append first second

@[simp] theorem landmarks_cons_reference (name : String) (parts : List Part) :
    landmarks (reference name :: parts) = reference name :: landmarks parts := by
  simp [landmarks, isConstant]

/-- The first landmark behind a reference is a constant. -/
theorem Separated.isConstant_head {name : String} (h : Separated (reference name :: parts)) :
    ∀ next ∈ (landmarks parts).head?, next.isConstant := by
  intro next hnext
  rcases constants_or_reference parts with hconstants | ⟨between, second, after, rfl, hbetween⟩
  · exact hconstants next (mem_landmarks_iff.mp (List.mem_of_mem_head? hnext)).1
  · obtain ⟨part, hpart, hseparates⟩ := h [] name between second after rfl hbetween
    have hkept : part ∈ landmarks between := mem_landmarks_iff.mpr ⟨hpart, fun _ ↦ hseparates⟩
    rw [landmarks_append, List.head?_append_of_ne_nil _ (List.ne_nil_of_mem hkept)] at hnext
    exact hbetween next (mem_landmarks_iff.mp (List.mem_of_mem_head? hnext)).1

/-- No two references are neighbours once the constants that separate nothing are left out. -/
theorem separated_iff : Separated parts ↔
    (landmarks parts).IsChain fun first second ↦ first.isConstant ∨ second.isConstant := by
  constructor
  · intro h
    induction parts with
    | nil => exact List.isChain_nil
    | cons part parts ih =>
      have hrest := ih h.tail
      cases part with
      | constant text =>
        rw [landmarks, List.filter_cons]
        split
        · exact List.isChain_cons.mpr ⟨fun _ _ ↦ Or.inl rfl, hrest⟩
        · exact hrest
      | reference name =>
        rw [landmarks_cons_reference]
        exact List.isChain_cons.mpr ⟨fun next hnext ↦ Or.inr (h.isConstant_head next hnext), hrest⟩
  · intro hchain before first between second after hparts hbetween
    by_contra hnone
    have hempty : landmarks between = [] := by
      refine List.eq_nil_iff_forall_not_mem.mpr fun part hpart ↦ ?_
      obtain ⟨hmem, hkept⟩ := mem_landmarks_iff.mp hpart
      exact hnone ⟨part, hmem, hkept (hbetween part hmem)⟩
    rw [hparts, landmarks_append, landmarks_cons_reference, landmarks_append, hempty,
      landmarks_cons_reference, List.nil_append, List.isChain_append_cons_cons] at hchain
    obtain ⟨-, hneighbours, -⟩ := hchain
    simp [isConstant] at hneighbours

instance (parts : List Part) : Decidable (Separated parts) :=
  decidable_of_iff' _ separated_iff

/-! ### Reading off values -/

variable {values others : String → String}

theorem output_eq_of_constants (hconstants : ∀ part ∈ parts, part.isConstant)
    (encoding : Encoding) : output values encoding parts = output others encoding parts := by
  refine congrArg String.join (List.map_congr_left fun part hpart ↦ ?_)
  cases part with
  | constant text => rfl
  | reference name => exact absurd (hconstants _ hpart) Bool.false_ne_true

theorem mem_output_of_mem_constant {part : Part} {c : Char} (hpart : part ∈ parts)
    (hconstant : part.isConstant) (hc : c ∈ part.text.toList) (encoding : Encoding) :
    c ∈ (output values encoding parts).toList := by
  refine mem_output_iff.mpr ⟨part, hpart, ?_⟩
  cases part with
  | constant text => exact hc
  | reference name => exact absurd hconstant Bool.false_ne_true

/-- A text is cut in one way only at the first place of a character. -/
theorem eq_of_append_cons_eq {first second rest otherRest : List Char} {c : Char}
    (hfirst : c ∉ first) (hsecond : c ∉ second)
    (heq : first ++ c :: rest = second ++ c :: otherRest) : first = second := by
  have hcut (lead tail : List Char) (hlead : c ∉ lead) :
      (lead ++ c :: tail).takeWhile (· ≠ c) = lead := by
    have hkept : ∀ d ∈ lead, decide (d ≠ c) := fun d hd ↦
      decide_eq_true fun hdc ↦ hlead (hdc ▸ hd)
    rw [List.takeWhile_append_of_pos hkept]
    simp
  rw [← hcut first rest hfirst, heq, hcut second otherRest hsecond]

/-- Up to a character that occurs in no encoded value, equal texts are cut alike. -/
theorem append_cancel_of_not_isEncoded {value other : String} {middle rest otherRest : List Char}
    {c : Char} (hc : ¬ Percent.IsEncoded c) (hmiddle : c ∈ middle)
    (heq : (Percent.encode value).toList ++ (middle ++ rest) =
      (Percent.encode other).toList ++ (middle ++ otherRest)) :
    value = other ∧ rest = otherRest := by
  obtain ⟨lead, tail, rfl, hlead⟩ := List.eq_append_cons_of_mem hmiddle
  have hfree (text : String) : c ∉ (Percent.encode text).toList ++ lead := by
    rw [List.mem_append, not_or]
    exact ⟨fun hmem ↦ hc (Percent.isEncoded_of_mem_encode hmem), hlead⟩
  have hcut : (Percent.encode value).toList ++ lead ++ c :: (tail ++ rest) =
      (Percent.encode other).toList ++ lead ++ c :: (tail ++ otherRest) := by
    simpa only [List.append_assoc, List.cons_append] using heq
  have hencoded :=
    List.append_cancel_right (eq_of_append_cons_eq (hfree value) (hfree other) hcut)
  rw [hencoded] at heq
  exact ⟨Percent.encode_injective (String.toList_inj.mp hencoded),
    List.append_cancel_left (List.append_cancel_left heq)⟩

/-- The value of the first reference can be read off the output, and so can what the other parts
become. -/
theorem Separated.cancel {name : String} (h : Separated (reference name :: parts))
    (houtput : output values .percent (reference name :: parts) =
      output others .percent (reference name :: parts)) :
    values name = others name ∧
      output values .percent parts = output others .percent parts := by
  rw [output_cons, output_cons, expand, expand, Encoding.apply, Encoding.apply] at houtput
  rcases constants_or_reference parts with hconstants | ⟨between, second, after, rfl, hbetween⟩
  · have hrest : output values .percent parts = output others .percent parts :=
      output_eq_of_constants hconstants .percent
    rw [hrest, String.append_left_inj] at houtput
    exact ⟨Percent.encode_injective houtput, hrest⟩
  · obtain ⟨part, hpart, c, hc, hseparates⟩ :=
      h [] name between second after rfl hbetween
    have hmiddle : c ∈ (output others .percent between).toList :=
      mem_output_of_mem_constant hpart (hbetween part hpart) hc .percent
    have hchars := congrArg String.toList houtput
    rw [output_append, output_append, output_eq_of_constants hbetween] at hchars ⊢
    simp only [String.toList_append] at hchars
    obtain ⟨hvalue, hrest⟩ := append_cancel_of_not_isEncoded hseparates hmiddle hchars
    rw [String.toList_inj.mp hrest]
    exact ⟨hvalue, rfl⟩

/-- The output of separated parts determines the values. -/
theorem Separated.values_eq (h : Separated parts)
    (houtput : output values .percent parts = output others .percent parts) :
    ∀ name ∈ names parts, values name = others name := by
  induction parts with
  | nil => exact List.forall_mem_nil _
  | cons part parts ih =>
    cases part with
    | constant text =>
      rw [output_cons, output_cons, expand, expand, String.append_right_inj] at houtput
      exact ih h.tail houtput
    | reference name =>
      obtain ⟨hname, hrest⟩ := h.cancel houtput
      exact List.forall_mem_cons.mpr ⟨hname, ih h.tail hrest⟩

end Part

/-- Records with the same output agree on every field that a template with separated references
refers to. -/
theorem record_eq_of_evaluate?_eq {template : Template}
    (hseparated : Part.Separated template.parts) {first second : Record} {output : String}
    (hfirst : template.evaluate? first .percent = some output)
    (hsecond : template.evaluate? second .percent = some output) :
    ∀ name ∈ template.references, first name = second name := by
  obtain ⟨values, hvalues, houtput⟩ := Template.evaluate?_eq_some_iff.mp hfirst
  obtain ⟨others, hothers, houtputOther⟩ := Template.evaluate?_eq_some_iff.mp hsecond
  intro name hname
  rw [hvalues name hname, hothers name hname,
    hseparated.values_eq (houtput.symm.trans houtputOther) name hname]

-- values that nothing separates can run into each other
example : (Template.parse "\x7bx\x7d\x7by\x7d").evaluate? (Record.ofPairs [("x", "a"), ("y", "")])
      .percent =
    (Template.parse "\x7bx\x7d\x7by\x7d").evaluate? (Record.ofPairs [("x", ""), ("y", "a")])
      .percent := by
  decide +kernel

/-- A separated template, and two records that differ in a field that it does not refer to. -/
theorem record_eq_of_evaluate?_eq_path :
    let template := Template.parse "\x7bx\x7d-/\x7by\x7d!\x7bx\x7d"
    let first := Record.ofPairs [("x", "a/b"), ("y", ""), ("z", "c")]
    let second := Record.ofPairs [("z", "d"), ("y", ""), ("x", "a/b")]
    Part.Separated template.parts ∧
      template.evaluate? first .percent = some "a%2Fb-/!a%2Fb" ∧
      template.evaluate? second .percent = some "a%2Fb-/!a%2Fb" ∧
      template.references = ["x", "y", "x"] ∧
      ∀ name ∈ template.references, first name = second name := by
  intro template first second
  have hseparated : Part.Separated template.parts := by decide +kernel
  have hfirst : template.evaluate? first .percent = some "a%2Fb-/!a%2Fb" := by decide +kernel
  have hsecond : template.evaluate? second .percent = some "a%2Fb-/!a%2Fb" := by decide +kernel
  exact ⟨hseparated, hfirst, hsecond, by decide +kernel,
    record_eq_of_evaluate?_eq hseparated hfirst hsecond⟩

end RecordTemplate
