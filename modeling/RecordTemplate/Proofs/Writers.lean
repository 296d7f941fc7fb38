import RecordTemplate.Proofs.Highlighting

/-!
Highlightings written to writers that refuse a fragment. A highlighting that comes out whole is the
same fragments in the same order on every writer (`MissingField.exists_fragments`). So one with
limited room ends up with the first characters of the highlighting, and any writer at all is handed
one fragment after the other up to the first that it refuses, and none behind it; its refusal is
what is reported (`writeUpTo_highlighting`).
-/

set_option autoImplicit false
set_option relaxedAutoImplicit false

namespace RecordTemplate

/-- A highlighting that comes out whole writes its fragments in order, whatever the writer. -/
theorem MissingField.exists_fragments (width : List Char → Nat) {missing : MissingField}
    {source text : String} (htext : (missing.highlightingBy width source).text? = some text) :
    ∃ fragments, String.join fragments = text ∧ ∀ (σ : Type) [Writer σ],
      (missing.highlightingBy width source : Writing σ Unit) = Writing.writeAll fragments := by
  suffices hall : ∃ fragments, ∀ (σ : Type) [Writer σ],
      (missing.highlightingBy width source : Writing σ Unit) = Writing.writeAll fragments by
    obtain ⟨fragments, hfragments⟩ := hall
    rw [hfragments, Writing.text?_writeAll] at htext
    exact ⟨fragments, Option.some.inj htext, hfragments⟩
  cases hline : missing.line? source with
  | none =>
    rw [Writing.text?, highlightingBy, hline, Writing.runOn_bind_of_none rfl] at htext
    contradiction
  | some line =>
    by_cases hwide : width line.text > maxLineWidth
    · exact ⟨[], fun σ _ ↦ highlightingBy_of_wide width hline hwide⟩
    · cases hcut : Text.between? (missing.rangeOn line).start (missing.rangeOn line).stop
          line.text with
      | none =>
        rw [text?_highlightingBy_eq_none width hline hwide hcut] at htext
        contradiction
      | some name =>
        obtain ⟨before, hwriting⟩ := exists_fragments_of_between? width hline hwide hcut
        exact ⟨_, hwriting⟩

/-- A highlighting that comes out whole, written to a writer that accepts a number of characters and
refuses the next one: the writer has the first characters of the highlighting, as many as it
accepts, and what is reported is whether these are all. Any other writer is handed the fragments of
the highlighting one after the other, and either it accepts all of them, or the first refusal is
reported and nothing behind the refused fragment is written. -/
theorem writeUpTo_highlighting (width : List Char → Nat) {missing : MissingField}
    {source text : String} (htext : (missing.highlightingBy width source).text? = some text) :
    (∀ limit, ∃ written, (missing.highlightingBy width source).writeUpTo limit = some written ∧
      written.text = String.ofList (text.toList.take limit) ∧
      written.text.length = min limit text.length ∧
      (written.complete = true ↔ text.length ≤ limit)) ∧
    ∃ fragments, String.join fragments = text ∧ ∀ (σ : Type) [Writer σ] (writer : σ),
      (∃ last, Writing.Accepts writer fragments last ∧
        (missing.highlightingBy width source).runOn writer = some (.ok (), last)) ∨
      ∃ accepted refused behind error, ∃ before last : σ,
        fragments = accepted ++ refused :: behind ∧ Writing.Accepts writer accepted before ∧
          Writer.accept refused before = (.error error, last) ∧
          (missing.highlightingBy width source).runOn writer = some (.error error, last) := by
  obtain ⟨fragments, rfl, hfragments⟩ := MissingField.exists_fragments width htext
  refine ⟨fun limit ↦ ?_, fragments, rfl, fun σ _ writer ↦ ?_⟩
  · rw [hfragments]
    refine ⟨_, Writing.writeUpTo_writeAll fragments limit, rfl, ?_, decide_eq_true_iff⟩
    rw [String.length_ofList, List.length_take, String.length_toList]
  · rw [hfragments]
    exact Writing.runOn_writeAll_cases fragments writer

/-- The carets of a highlighting, of which a writer accepts the first one. -/
theorem writeUpTo_highlighting_carets :
    ((⟨2, 3, "abc"⟩ : MissingField).highlighting " \x7babc\x7d").text? =
        some "   \x7babc\x7d\n    ^^^\n" ∧
      ∃ written, ((⟨2, 3, "abc"⟩ : MissingField).highlighting " \x7babc\x7d").writeUpTo 14 =
          some written ∧
        written.text = "   \x7babc\x7d\n    ^" ∧ written.complete = false := by
  have htext : ((⟨2, 3, "abc"⟩ : MissingField).highlighting " \x7babc\x7d").text? =
      some "   \x7babc\x7d\n    ^^^\n" := by decide
  obtain ⟨hlimited, -⟩ := writeUpTo_highlighting Text.width htext
  obtain ⟨written, hwritten, hfirst, -, hcomplete⟩ := hlimited 14
  refine ⟨htext, written, hwritten, hfirst, ?_⟩
  rw [Bool.eq_false_iff, Ne, hcomplete]
  decide

end RecordTemplate
