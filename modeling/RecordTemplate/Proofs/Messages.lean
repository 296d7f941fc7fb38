import RecordTemplate.Proofs.Evaluation

/-!
The message of an evaluation that failed, read as a template. It is the rendering of a constant and
a reference (`MissingField.message_eq_render`), so it is read back as these two parts exactly if the
name is neither empty nor ends in a backslash, which would escape the closing brace
(`MissingField.parts_parse_message_iff`). A name that was read from a source is neither
(`Part.Expressible.name_of_mem`). So whatever the source is, the reference that has no value can be
told from the message (`parts_parse_message_of_error`).
-/

set_option autoImplicit false
set_option relaxedAutoImplicit false

namespace RecordTemplate

namespace Part

theorem expressible_constant_reference_iff {text name : String} :
    Expressible [constant text, reference name] ↔
      (text ≠ "" ∧ text.toList.getLast? ≠ some '\\') ∧
        name ≠ "" ∧ name.toList.getLast? ≠ some '\\' := by
  constructor
  · intro hparts
    have hnotEmpty := hparts.text_ne_empty
    have hconstantEnd := List.isChain_pair.mp hparts.constant_end
    have hnameEnd := hparts.name_end
    rw [List.forall_mem_cons, List.forall_mem_singleton] at hnotEmpty hnameEnd
    exact ⟨⟨hnotEmpty.1, hconstantEnd rfl Bool.false_ne_true⟩, hnotEmpty.2,
      hnameEnd.2 Bool.false_ne_true⟩
  · rintro ⟨⟨htext, htextEnd⟩, hname, hnameEnd⟩
    constructor
    · exact List.forall_mem_cons.mpr ⟨htext, List.forall_mem_singleton.mpr hname⟩
    · exact List.isChain_pair.mpr fun hconstants ↦ Bool.false_ne_true hconstants.2
    · exact List.isChain_pair.mpr fun _ _ ↦ htextEnd
    · exact List.forall_mem_cons.mpr
        ⟨absurd rfl, List.forall_mem_singleton.mpr fun _ ↦ hnameEnd⟩

theorem render_constant_reference {text : String} (htext : escapeBraces text.toList = text.toList)
    (name : String) : render [constant text, reference name] =
      text ++ "\x7b" ++ String.ofList (escapeBraces name.toList) ++ "\x7d" := by
  rw [← String.toList_inj, render, String.toList_ofList, List.flatMap_cons,
    List.flatMap_singleton, renderChars, renderChars, htext]
  simp

/-- The names in expressible parts are not empty, and no backslash stands at their ends. -/
theorem Expressible.name_of_mem {parts : List Part} (hparts : Expressible parts) {name : String}
    (hname : reference name ∈ parts) : name ≠ "" ∧ name.toList.getLast? ≠ some '\\' :=
  ⟨hparts.text_ne_empty _ hname, hparts.name_end _ hname Bool.false_ne_true⟩

end Part

namespace MissingField

/-- The message is a constant and a reference in template syntax. -/
theorem message_eq_render (missing : MissingField) :
    missing.message =
      Part.render [.constant "No value for reference: ", .reference missing.name] := by
  have htext : escapeBraces "No value for reference: ".toList =
      "No value for reference: ".toList := rfl
  have hlead : "No value for reference: " ++ "\x7b" = "No value for reference: \x7b" := rfl
  rw [Part.render_constant_reference htext, hlead]
  rfl

/-- A message is read back as the constant and the reference that it consists of, unless its name is
one that no source has. -/
theorem parts_parse_message_iff (missing : MissingField) :
    (Template.parse missing.message).parts =
        [.constant "No value for reference: ", .reference missing.name] ↔
      missing.name ≠ "" ∧ missing.name.toList.getLast? ≠ some '\\' := by
  constructor
  · intro hparts
    have hexpressible := expressible_parts_parse missing.message
    rw [hparts] at hexpressible
    exact (Part.expressible_constant_reference_iff.mp hexpressible).2
  · intro hname
    rw [message_eq_render]
    refine parts_parse_render (Part.expressible_constant_reference_iff.mpr ⟨?_, hname⟩)
    decide

end MissingField

/-- Whatever the braces, backslashes and line breaks of its name are, the reference that an
evaluation fails at is what the message of the failure is read as, behind a fixed constant. -/
theorem parts_parse_message_of_error {source : String} {record : Record} {encoding : Encoding}
    {missing : MissingField}
    (hmissing : (Template.parse source).evaluate record encoding = .error missing) :
    (Template.parse missing.message).parts =
      [.constant "No value for reference: ", .reference missing.name] := by
  obtain ⟨before, name, range, after, hsegments, -, -, rfl⟩ :=
    Template.evaluate_eq_error_iff.mp hmissing
  have hreference : Part.reference name ∈ (Template.parse source).parts := by
    rw [Template.parts, hsegments, List.map_append, List.map_cons]
    exact List.mem_append_right _ List.mem_cons_self
  rw [MissingField.parts_parse_message_iff]
  exact (expressible_parts_parse source).name_of_mem hreference

/-- A name with an escaped brace behind a backslash, a bare opening brace and a line break. -/
theorem parts_parse_message_of_error_braces :
    let source := "\x7d\\\x7b\x7b\\\\\x7d\n\x7ba\x7d"
    let missing : MissingField := ⟨4, 6, "\\\x7d\n\x7ba"⟩
    (Template.parse source).evaluate Record.empty .raw = .error missing ∧
      missing.message = "No value for reference: \x7b\\\\\x7d\n\\\x7ba\x7d" ∧
      (Template.parse missing.message).parts =
        [.constant "No value for reference: ", .reference missing.name] := by
  intro source missing
  have hmissing : (Template.parse source).evaluate Record.empty .raw = .error missing := by
    decide +kernel
  exact ⟨hmissing, by decide, parts_parse_message_of_error hmissing⟩

end RecordTemplate
