import RecordTemplate.Proofs.Evaluation

/-!
The meaning of a template is its output for every record. For templates that were read from a source
or made of a value, the rendering is a canonical form of the meaning: two of them have the same
outputs exactly if they are rendered as the same text, and exactly if they have the same parts
(`meaning_eq_iff`).

That parts can be told from outputs is shown part by part (`Part.head_eq_of_output_eq`). A reference
can be made to begin with any character, so it differs from a constant, from another reference, and
from a stretch of text by which one constant would be longer than another
(`Part.eq_nil_of_output_eq_append`). The records that tell parts from each other have one-character
values, and no character needs to be absent from the constants.
-/

set_option autoImplicit false
set_option relaxedAutoImplicit false

namespace RecordTemplate

namespace Part

variable {first second parts others : List Part}

/-! ### Telling parts from each other -/

theorem Expressible.not_isConstant_head {text : String}
    (h : Expressible (constant text :: parts)) : ∀ part ∈ parts.head?, ¬ part.isConstant :=
  fun part hpart hconstant ↦ (List.isChain_cons.mp h.constants_apart).1 part hpart ⟨rfl, hconstant⟩

theorem eq_nil_of_output_eq_empty (hparts : Expressible parts)
    (houtput : output (fun _ ↦ "a") .raw parts = "") : parts = [] := by
  cases parts with
  | nil => rfl
  | cons part parts =>
    rw [output_cons, String.append_eq_empty_iff] at houtput
    cases part with
    | constant text => exact absurd houtput.1 (hparts.text_ne_empty _ List.mem_cons_self)
    | reference name => exact absurd houtput.1 (by decide : ("a" : String) ≠ "")

/-- What a reference becomes begins with no fixed text. -/
theorem eq_nil_of_output_eq_append {lead : List Char}
    (hparts : ∀ part ∈ parts.head?, ¬ part.isConstant)
    (houtput : ∀ values, (output values .raw parts).toList =
      lead ++ (output values .raw others).toList) : lead = [] := by
  cases lead with
  | nil => rfl
  | cons c lead =>
    obtain ⟨d, hd⟩ : ∃ d : Char, d ≠ c := by
      by_cases hc : c = 'a'
      · exact ⟨'b', by rw [hc]; decide⟩
      · exact ⟨'a', Ne.symm hc⟩
    -- the fields get a value that begins otherwise
    have hstart := houtput fun _ ↦ String.ofList [d]
    cases parts with
    | nil => simp at hstart
    | cons part parts =>
      cases part with
      | constant text => exact absurd rfl (hparts _ rfl)
      | reference name => simp [expand, Encoding.apply, hd] at hstart

/-- A constant is no longer than another one with which the parts become the same. -/
theorem text_eq_of_output_eq {text other : String} {rest : List Char}
    (hfirst : Expressible (constant text :: first)) (hrest : other.toList = text.toList ++ rest)
    (houtput : ∀ values, output values .raw (constant text :: first) =
      output values .raw (constant other :: second)) : text = other := by
  have hlead (values : String → String) : (output values .raw first).toList =
      rest ++ (output values .raw second).toList := by
    have hvalues := congrArg String.toList (houtput values)
    simp only [output_cons, expand, String.toList_append, hrest, List.append_assoc] at hvalues
    exact List.append_cancel_left hvalues
  have hempty := eq_nil_of_output_eq_append hfirst.not_isConstant_head hlead
  rw [hempty, List.append_nil] at hrest
  exact String.toList_inj.mp hrest.symm

theorem output_reference_ne {text name : String} (hfirst : Expressible (constant text :: first)) :
    ¬ ∀ values, output values .raw (reference name :: second) =
      output values .raw (constant text :: first) := by
  intro houtput
  have hlead (values : String → String) : (output values .raw (reference name :: second)).toList =
      text.toList ++ (output values .raw first).toList := by
    rw [houtput values, output_cons, String.toList_append, expand]
  have hempty := eq_nil_of_output_eq_append (by simp [isConstant]) hlead
  exact hfirst.text_ne_empty _ List.mem_cons_self (String.toList_eq_nil_iff.mp hempty)

theorem name_eq_of_output_eq {name other : String}
    (houtput : ∀ values, output values .raw (reference name :: first) =
      output values .raw (reference other :: second)) : name = other := by
  by_contra hne
  have hvalues := houtput fun field ↦ if field = name then "a" else "b"
  have hchars := congrArg String.toList hvalues
  simp [expand, Encoding.apply, Ne.symm hne] at hchars

/-- Parts that become the same whatever the values are begin with the same part. -/
theorem head_eq_of_output_eq {part other : Part} (hfirst : Expressible (part :: first))
    (hsecond : Expressible (other :: second))
    (houtput : ∀ values, output values .raw (part :: first) =
      output values .raw (other :: second)) : part = other := by
  have houtputSymm := fun values ↦ (houtput values).symm
  cases part with
  | constant text =>
    cases other with
    | constant otherText =>
      -- one of the two texts is the beginning of the other
      have hchars := congrArg String.toList (houtput fun _ ↦ "")
      rw [output_cons, output_cons, String.toList_append, String.toList_append] at hchars
      rcases List.append_eq_append_iff.mp hchars with ⟨rest, hrest, -⟩ | ⟨rest, hrest, -⟩
      · exact congrArg constant (text_eq_of_output_eq hfirst hrest houtput)
      · exact congrArg constant (text_eq_of_output_eq hsecond hrest houtputSymm).symm
    | reference name => exact absurd houtputSymm (output_reference_ne hfirst)
  | reference name =>
    cases other with
    | constant text => exact absurd houtput (output_reference_ne hsecond)
    | reference otherName => exact congrArg reference (name_eq_of_output_eq houtput)

/-- Expressible parts that become the same whatever the values are, are the same. -/
theorem eq_of_output_eq (hfirst : Expressible first) (hsecond : Expressible second)
    (houtput : ∀ values, output values .raw first = output values .raw second) :
    first = second := by
  induction first generalizing second with
  | nil => exact (eq_nil_of_output_eq_empty hsecond (houtput _).symm).symm
  | cons part first ih =>
    cases second with
    | nil => exact eq_nil_of_output_eq_empty hfirst (houtput _)
    | cons other second =>
      obtain rfl := head_eq_of_output_eq hfirst hsecond houtput
      rw [ih hfirst.tail hsecond.tail fun values ↦ ?_]
      have hvalues := houtput values
      rw [output_cons, output_cons, String.append_right_inj] at hvalues
      exact hvalues

end Part

/-! ### Templates -/

namespace Template

variable {first second : Template}

theorem evaluate?_congr_parts (hparts : first.parts = second.parts) (record : Record)
    (encoding : Encoding) : first.evaluate? record encoding = second.evaluate? record encoding := by
  refine Option.ext fun output ↦ ?_
  rw [evaluate?_eq_some_iff, evaluate?_eq_some_iff, references, references, hparts]

theorem parts_eq_of_evaluate?_eq (hfirst : Part.Expressible first.parts)
    (hsecond : Part.Expressible second.parts)
    (hmeaning : ∀ record, first.evaluate? record .raw = second.evaluate? record .raw) :
    first.parts = second.parts := by
  refine Part.eq_of_output_eq hfirst hsecond fun values ↦ ?_
  have houtput (template : Template) : template.evaluate? (fun field ↦ some (values field)) .raw =
      some (Part.output values .raw template.parts) :=
    evaluate?_eq_some_iff.mpr ⟨values, fun _ _ ↦ rfl, rfl⟩
  have hrecord := hmeaning fun field ↦ some (values field)
  rw [houtput, houtput, Option.some.injEq] at hrecord
  exact hrecord

theorem parts_eq_of_render_eq (hfirst : Part.Expressible first.parts)
    (hsecond : Part.Expressible second.parts) (hrender : first.render = second.render) :
    first.parts = second.parts := by
  rw [← parts_parse_render hfirst, ← parts_parse_render hsecond]
  exact congrArg (fun source ↦ (parse source).parts) hrender

end Template

/-- The rendering is a canonical form: templates have the same output for every record exactly if
they are rendered alike, and exactly if they have the same parts. -/
theorem meaning_eq_iff (origin otherOrigin : Origin) (text other : String) :
    ((∀ record, (origin.template text).evaluate? record .raw =
          (otherOrigin.template other).evaluate? record .raw) ↔
        (origin.template text).render = (otherOrigin.template other).render) ∧
      ((origin.template text).render = (otherOrigin.template other).render ↔
        (origin.template text).parts = (otherOrigin.template other).parts) := by
  have hfirst := expressible_parts origin text
  have hsecond := expressible_parts otherOrigin other
  refine ⟨⟨fun hmeaning ↦ ?_, fun hrender record ↦ ?_⟩, ⟨fun hrender ↦ ?_, fun hparts ↦ ?_⟩⟩
  · exact congrArg Part.render (Template.parts_eq_of_evaluate?_eq hfirst hsecond hmeaning)
  · exact Template.evaluate?_congr_parts
      (Template.parts_eq_of_render_eq hfirst hsecond hrender) record .raw
  · exact Template.parts_eq_of_render_eq hfirst hsecond hrender
  · exact congrArg Part.render hparts

end RecordTemplate
