import RecordTemplate.Proofs.Grammar
import RecordTemplate.Template.Evaluation

/-!
Evaluation told by the parts of a template and by its source. If a record has a value for each
field that a template refers to, the output is what the parts become with these values
(`Template.evaluate_of_values`); if not, the evaluation stops at the first reference without a
value (`Template.evaluate_of_missing`). One of the two is always the case
(`Segment.values_or_missing`), so the two laws decide every evaluation. For a template that was read
from a source, the reference that is blamed is the first one in the source, and its name stands in
the source right between two braces (`evaluate_parse_iff`).
-/

set_option autoImplicit false
set_option relaxedAutoImplicit false

namespace RecordTemplate

/-- Items have a property, or there is a first one without it. -/
theorem all_or_first {α : Type} (property : α → Prop) (items : List α) :
    (∀ item ∈ items, property item) ∨
      ∃ before item after, items = before ++ item :: after ∧
        (∀ other ∈ before, property other) ∧ ¬ property item := by
  classical
  cases hfind : items.find? fun item ↦ ¬ property item with
  | none =>
    left
    simpa using hfind
  | some item =>
    obtain ⟨hitem, before, after, hitems, hbefore⟩ := List.find?_eq_some_iff_append.mp hfind
    exact Or.inr ⟨before, item, after, hitems, by simpa using hbefore, by simpa using hitem⟩

/-! ### What parts become -/

namespace Part

/-- What a part becomes when fields have values. -/
def expand (values : String → String) (encoding : Encoding) : Part → String
  | constant text => text
  | reference name => encoding.apply (values name)

/-- What parts become when fields have values, one text behind the other. -/
def output (values : String → String) (encoding : Encoding) (parts : List Part) : String :=
  String.join (parts.map (expand values encoding))

section

variable {values : String → String} {encoding : Encoding}

@[simp] theorem output_nil : output values encoding [] = "" := rfl

@[simp] theorem output_cons (part : Part) (parts : List Part) :
    output values encoding (part :: parts) =
      part.expand values encoding ++ output values encoding parts := by
  rw [output, List.map_cons, String.join_cons, output]

@[simp] theorem output_append (first second : List Part) :
    output values encoding (first ++ second) =
      output values encoding first ++ output values encoding second := by
  rw [output, List.map_append, String.join_append, output, output]

theorem mem_output_iff {c : Char} {parts : List Part} :
    c ∈ (output values encoding parts).toList ↔
      ∃ part ∈ parts, c ∈ (part.expand values encoding).toList := by
  rw [output, String.toList_join, List.flatMap_map, List.mem_flatMap]

end

/-- The names of the fields that parts refer to. -/
def names (parts : List Part) : List String :=
  parts.filterMap reference?

theorem mem_names_iff {name : String} {parts : List Part} :
    name ∈ names parts ↔ reference name ∈ parts := by
  rw [names, List.mem_filterMap]
  constructor
  · rintro ⟨part, hpart, hname⟩
    cases part with
    | constant text => contradiction
    | reference other => rwa [← Option.some.inj hname]
  · exact fun hpart ↦ ⟨reference name, hpart, rfl⟩

end Part

/-- A record has these values for fields. -/
def Record.Gives (record : Record) (values : String → String) (names : List String) : Prop :=
  ∀ name ∈ names, record name = some (values name)

theorem Record.exists_gives {record : Record} {names : List String}
    (hnames : ∀ name ∈ names, (record name).isSome) : ∃ values, record.Gives values names := by
  refine ⟨fun name ↦ (record name).getD "", fun name hname ↦ ?_⟩
  obtain ⟨value, hvalue⟩ := Option.isSome_iff_exists.mp (hnames name hname)
  simp only [hvalue, Option.getD_some]

theorem Record.Gives.isSome {record : Record} {values : String → String} {names : List String}
    (hvalues : record.Gives values names) : ∀ name ∈ names, (record name).isSome := by
  intro name hname
  rw [hvalues name hname]
  rfl

/-! ### Segments -/

namespace Segment

variable {record : Record} {encoding : Encoding} {values : String → String}

theorem evaluate_reference_of_none {name : String} (hname : record name = none)
    (range : ByteRange) : (⟨.reference name, range⟩ : Segment).evaluate record encoding =
      .error ⟨range.start, range.stop - range.start, name⟩ := by
  simp only [evaluate, hname]

theorem evaluate_reference_of_some {name value : String} (hname : record name = some value)
    (range : ByteRange) : (⟨.reference name, range⟩ : Segment).evaluate record encoding =
      .ok (encoding.apply value) := by
  simp only [evaluate, hname]

/-- Segments become what their parts become if the record has values for them. -/
theorem mapM_evaluate_of_values {segments : List Segment}
    (hvalues : record.Gives values (Part.names (segments.map part))) :
    segments.mapM (evaluate · record encoding) =
      .ok ((segments.map part).map (Part.expand values encoding)) := by
  induction segments with
  | nil => rfl
  | cons segment segments ih =>
    obtain ⟨part, range⟩ := segment
    rw [List.mapM_cons]
    cases part with
    | constant text =>
      rw [ih hvalues]
      rfl
    | reference name =>
      obtain ⟨hname, hothers⟩ := List.forall_mem_cons.mp hvalues
      rw [evaluate_reference_of_some hname, ih hothers]
      rfl

/-- The first segment that fails is the outcome. -/
theorem mapM_evaluate_of_error {before after : List Segment} {segment : Segment}
    {missing : MissingField}
    (hbefore : ∀ name ∈ Part.names (before.map part), (record name).isSome)
    (hsegment : segment.evaluate record encoding = .error missing) :
    (before ++ segment :: after).mapM (evaluate · record encoding) = .error missing := by
  obtain ⟨values, hvalues⟩ := Record.exists_gives hbefore
  rw [List.mapM_append, mapM_evaluate_of_values hvalues, List.mapM_cons, hsegment]
  rfl

theorem mem_names_iff {name : String} {segments : List Segment} :
    name ∈ Part.names (segments.map part) ↔ ∃ range, ⟨.reference name, range⟩ ∈ segments := by
  rw [Part.mem_names_iff, List.mem_map]
  constructor
  · rintro ⟨⟨part, range⟩, hsegment, rfl⟩
    exact ⟨range, hsegment⟩
  · exact fun ⟨range, hsegment⟩ ↦ ⟨_, hsegment, rfl⟩

/-- A record has values for all references of segments, or there is a first one without a value. -/
theorem values_or_missing (segments : List Segment) (record : Record) :
    (∃ values, record.Gives values (Part.names (segments.map part))) ∨
      ∃ before name range after, segments = before ++ ⟨.reference name, range⟩ :: after ∧
        (∀ other ∈ Part.names (before.map part), (record other).isSome) ∧ record name = none := by
  have hresolved {passed : List Segment} (hpassed : ∀ segment ∈ passed,
      ∀ name, segment.part = .reference name → (record name).isSome) :
      ∀ name ∈ Part.names (passed.map part), (record name).isSome := by
    intro name hname
    obtain ⟨range, hsegment⟩ := mem_names_iff.mp hname
    exact hpassed _ hsegment name rfl
  rcases all_or_first (fun segment : Segment ↦
      ∀ name, segment.part = .reference name → (record name).isSome) segments with
    hall | ⟨before, ⟨part, range⟩, after, rfl, hbefore, hmissing⟩
  · exact Or.inl (Record.exists_gives (hresolved hall))
  · push Not at hmissing
    obtain ⟨name, rfl, hname⟩ := hmissing
    exact Or.inr ⟨before, name, range, after, rfl, hresolved hbefore, by simpa using hname⟩

end Segment

/-! ### Templates -/

namespace Template

variable {template : Template} {record : Record} {encoding : Encoding}

theorem evaluate_of_values {values : String → String}
    (hvalues : record.Gives values template.references) :
    template.evaluate record encoding = .ok (Part.output values encoding template.parts) := by
  rw [evaluate, Segment.mapM_evaluate_of_values hvalues]
  rfl

theorem evaluate_of_missing {before after : List Segment} {name : String} {range : ByteRange}
    (hsegments : template.segments = before ++ ⟨.reference name, range⟩ :: after)
    (hbefore : ∀ other ∈ Part.names (before.map Segment.part), (record other).isSome)
    (hname : record name = none) :
    template.evaluate record encoding =
      .error ⟨range.start, range.stop - range.start, name⟩ := by
  rw [evaluate, hsegments, Segment.mapM_evaluate_of_error hbefore
    (Segment.evaluate_reference_of_none hname range)]
  rfl

/-- There is an output exactly if there are values for all references, and then it is what the
parts become with these values. -/
theorem evaluate_eq_ok_iff {output : String} :
    template.evaluate record encoding = .ok output ↔
      ∃ values, record.Gives values template.references ∧
        output = Part.output values encoding template.parts := by
  constructor
  · intro hok
    rcases Segment.values_or_missing template.segments record with
      ⟨values, hvalues⟩ | ⟨before, name, range, after, hsegments, hbefore, hname⟩
    · rw [evaluate_of_values hvalues, Except.ok.injEq] at hok
      exact ⟨values, hvalues, hok.symm⟩
    · rw [evaluate_of_missing hsegments hbefore hname] at hok
      contradiction
  · rintro ⟨values, hvalues, rfl⟩
    exact evaluate_of_values hvalues

theorem evaluate_eq_error_iff {missing : MissingField} :
    template.evaluate record encoding = .error missing ↔
      ∃ before name range after, template.segments = before ++ ⟨.reference name, range⟩ :: after ∧
        (∀ other ∈ Part.names (before.map Segment.part), (record other).isSome) ∧
        record name = none ∧ missing = ⟨range.start, range.stop - range.start, name⟩ := by
  constructor
  · intro herror
    rcases Segment.values_or_missing template.segments record with
      ⟨values, hvalues⟩ | ⟨before, name, range, after, hsegments, hbefore, hname⟩
    · rw [evaluate_of_values hvalues] at herror
      contradiction
    · rw [evaluate_of_missing hsegments hbefore hname, Except.error.injEq] at herror
      exact ⟨before, name, range, after, hsegments, hbefore, hname, herror.symm⟩
  · rintro ⟨before, name, range, after, hsegments, hbefore, hname, rfl⟩
    exact evaluate_of_missing hsegments hbefore hname

theorem evaluate?_eq_some_iff {output : String} :
    template.evaluate? record encoding = some output ↔
      ∃ values, record.Gives values template.references ∧
        output = Part.output values encoding template.parts := by
  rw [← evaluate_eq_ok_iff, evaluate?]
  cases template.evaluate record encoding <;> simp [Except.toOption]

end Template

/-! ### The reference that is blamed -/

/-- The range of the name, as the template source has it. -/
def MissingField.range (missing : MissingField) : ByteRange :=
  ⟨missing.position, missing.position + missing.size⟩

/-- The first reference of a source that a record has no value for. -/
structure MissingField.IsFirst (missing : MissingField) (source : String) (record : Record) :
    Prop where
  is_reference : ⟨.reference missing.name, missing.range⟩ ∈ (Template.parse source).segments
  no_value : record missing.name = none
  first : ∀ name range, ⟨.reference name, range⟩ ∈ (Template.parse source).segments →
    range.start < missing.position → (record name).isSome
  opening : 0 < missing.position ∧
    Text.byteAt? source (missing.position - 1) = some '{'.toUInt8
  closing : Text.byteAt? source (missing.position + missing.size) = some '}'.toUInt8
  name_eq : missing.name = unescapedSlice source missing.range

theorem start_lt_stop_of_mem_segments {source : String} {segment : Segment}
    (hsegment : segment ∈ (Template.parse source).segments) :
    segment.range.start < segment.range.stop :=
  (isSegmentation_segments source).start_lt_stop (references_segments source) hsegment

section

variable {source : String} {before after : List Segment} {segment : Segment}

/-- Segments stand in the order of their ranges. -/
theorem mem_before_iff (hsegments : (Template.parse source).segments = before ++ segment :: after)
    {other : Segment} :
    other ∈ before ↔
      other ∈ (Template.parse source).segments ∧ other.range.start < segment.range.start := by
  have hordered := (isSegmentation_segments source).ordered
  rw [hsegments, List.pairwise_append, List.pairwise_cons] at hordered
  obtain ⟨-, ⟨hafter, -⟩, hbefore⟩ := hordered
  constructor
  · intro hother
    have hmem : other ∈ (Template.parse source).segments := by
      rw [hsegments]
      exact List.mem_append_left _ hother
    have hle := hbefore other hother segment List.mem_cons_self
    have hlt := start_lt_stop_of_mem_segments hmem
    exact ⟨hmem, by omega⟩
  · intro hother
    obtain ⟨hmem, hlt⟩ := hother
    have hsegment : segment ∈ (Template.parse source).segments := by
      rw [hsegments]
      exact List.mem_append_right _ List.mem_cons_self
    have hpos := start_lt_stop_of_mem_segments hsegment
    rw [hsegments, List.mem_append, List.mem_cons] at hmem
    rcases hmem with hmem | rfl | hmem
    · exact hmem
    · omega
    · have hle := hafter other hmem
      omega

end

/-- The error of an evaluation is the first reference without a value. -/
theorem evaluate_parse_eq_error_iff {source : String} {record : Record} {encoding : Encoding}
    {missing : MissingField} :
    (Template.parse source).evaluate record encoding = .error missing ↔
      missing.IsFirst source record := by
  rw [Template.evaluate_eq_error_iff]
  constructor
  · rintro ⟨before, name, range, after, hsegments, hbefore, hname, rfl⟩
    have hmem : ⟨.reference name, range⟩ ∈ (Template.parse source).segments := by
      rw [hsegments]
      exact List.mem_append_right _ List.mem_cons_self
    have hlt : range.start < range.stop := start_lt_stop_of_mem_segments hmem
    have hstop : range.start + (range.stop - range.start) = range.stop := by omega
    have hmatches := matches_of_mem_segments hmem
    obtain ⟨hpos, hopening, hclosing⟩ := hmatches.braces Bool.false_ne_true
    constructor
    · rw [MissingField.range, hstop]
      exact hmem
    · exact hname
    · intro other otherRange hother hstart
      have hmemBefore := (mem_before_iff hsegments).mpr ⟨hother, hstart⟩
      exact hbefore other (Segment.mem_names_iff.mpr ⟨otherRange, hmemBefore⟩)
    · exact ⟨hpos, hopening⟩
    · rw [hstop]
      exact hclosing
    · rw [MissingField.range, hstop]
      exact hmatches.text_part
  · intro hfirst
    obtain ⟨before, after, hsegments⟩ := List.append_of_mem hfirst.is_reference
    refine ⟨before, missing.name, missing.range, after, hsegments, ?_, hfirst.no_value, ?_⟩
    · intro other hother
      obtain ⟨range, hsegment⟩ := Segment.mem_names_iff.mp hother
      obtain ⟨hmem, hstart⟩ := (mem_before_iff hsegments).mp hsegment
      exact hfirst.first other range hmem hstart
    · simp [MissingField.range]

/-- A template has an output exactly if the record has a value for every reference, and the output
is then the constants and the encoded values in order. Otherwise the first reference without a value
is reported, with the place of its name in the source. -/
theorem evaluate_parse_iff (source : String) (record : Record) (encoding : Encoding) :
    ((∃ output, (Template.parse source).evaluate record encoding = .ok output) ↔
        ∀ name ∈ (Template.parse source).references, (record name).isSome) ∧
      (∀ output, (Template.parse source).evaluate record encoding = .ok output ↔
        ∃ values, record.Gives values (Template.parse source).references ∧
          output = Part.output values encoding (Template.parse source).parts) ∧
      ∀ missing, (Template.parse source).evaluate record encoding = .error missing ↔
        missing.IsFirst source record := by
  refine ⟨⟨?_, ?_⟩, fun _ ↦ Template.evaluate_eq_ok_iff, fun _ ↦ evaluate_parse_eq_error_iff⟩
  · rintro ⟨output, houtput⟩
    obtain ⟨values, hvalues, -⟩ := Template.evaluate_eq_ok_iff.mp houtput
    exact hvalues.isSome
  · intro hnames
    obtain ⟨values, hvalues⟩ := Record.exists_gives hnames
    exact ⟨_, Template.evaluate_of_values hvalues⟩

end RecordTemplate
