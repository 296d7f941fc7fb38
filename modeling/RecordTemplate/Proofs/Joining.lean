import RecordTemplate.Batch
import RecordTemplate.Proofs.Composition
import RecordTemplate.Proofs.Constants
import RecordTemplate.Proofs.Meaning

/-!
Joined outputs. Templates that are evaluated against one record, with a separator between their
outputs, can be replaced by a single template: the one whose source consists of their renderings
with the separator between them, its braces escaped (`joined_eq_evaluate_parse`). Every rendering is
closed (`isClosed_render`), so each of these texts is evaluated as if it stood alone, provided that
no backslash at the end of one escapes a brace of the next. A rendering may well end in a backslash,
but an escaped separator does not start with a brace; it does not end in a backslash unless the
separator does.
-/

set_option autoImplicit false
set_option relaxedAutoImplicit false

namespace RecordTemplate

open Token

/-! ### Renderings are closed -/

namespace Token.Closed

variable {first second tokens : List Token}

theorem append (hfirst : Closed first) (hsecond : Closed second) : Closed (first ++ second) := by
  intro before after htokens
  rcases List.append_eq_append_iff.mp htokens with ⟨middle, -, htail⟩ | ⟨middle, hhead, htail⟩
  · exact hsecond middle after htail
  · cases middle with
    | nil => exact hsecond [] after htail.symm
    | cons token middle =>
      rw [List.cons_append, List.cons.injEq] at htail
      rw [← htail.1] at hhead
      rw [htail.2]
      exact List.mem_append_left _ (hfirst before middle hhead)

theorem of_not_mem (htokens : bare .opening ∉ tokens) : Closed tokens := by
  rintro before after rfl
  exact absurd (List.mem_append_right _ List.mem_cons_self) htokens

theorem of_concat (tokens : List Token) : Closed (tokens ++ [bare .closing]) := by
  intro before after htokens
  rcases after.eq_nil_or_concat' with rfl | ⟨after, last, rfl⟩
  · have hlast := (List.append_inj' htokens rfl).2
    contradiction
  · rw [← List.cons_append, ← List.append_assoc] at htokens
    rw [← (List.append_inj' htokens rfl).2]
    exact List.mem_append_right _ List.mem_cons_self

end Token.Closed

/-- The tokens that parts are rendered as are closed. -/
theorem Part.closed_tokens (parts : List Part) :
    Closed ((parts.map piece).flatMap Piece.tokens) := by
  induction parts with
  | nil => exact Closed.of_not_mem List.not_mem_nil
  | cons part parts ih =>
    rw [List.map_cons, List.flatMap_cons]
    refine Closed.append ?_ ih
    cases part with
    | constant text => exact Closed.of_not_mem (bare_not_mem_map_literal _ _)
    | reference name => exact Closed.of_concat _

theorem isClosed_of_closed_scan {source : String} (hscan : Closed (scan source.toList)) :
    IsClosed source := by
  intro opening hopening
  obtain ⟨before, after, htokens, rfl⟩ := isBare_iff.mp hopening
  obtain ⟨name, rest, rfl⟩ := List.append_of_mem (hscan before after htokens)
  refine ⟨writtenSize (before ++ bare .opening :: name), ?_, isBare_iff.mpr ⟨_, rest, ?_, rfl⟩⟩
  · rw [writtenSize_append, writtenSize_cons_bare]
    omega
  · rw [htokens, List.append_assoc, List.cons_append]

theorem isClosed_render {parts : List Part} (hparts : Part.Expressible parts) :
    IsClosed (Part.render parts) := by
  refine isClosed_of_closed_scan ?_
  rw [Part.toList_render, hparts.scanned.scan_flatMap_source]
  exact Part.closed_tokens parts

/-! ### The ends of escaped texts -/

theorem not_startsWithBrace_escapeBraces_append {text : List Char} (htext : text ≠ [])
    (rest : List Char) : ¬ startsWithBrace (escapeBraces text ++ rest) := by
  obtain ⟨c, text, rfl⟩ := List.exists_cons_of_ne_nil htext
  rw [escapeBraces, List.flatMap_cons]
  split
  · exact Bool.false_ne_true
  · next hc => exact hc

theorem getLast?_escapeBraces (text : List Char) :
    (escapeBraces text).getLast? = text.getLast? := by
  rw [← flatMap_source_map_literal, getLast?_flatMap_source, List.map_map]
  simp [Function.comp_def]

/-! ### One template for many -/

section

variable {record : Record} {encoding : Encoding}

theorem evaluate?_parse_append {source behind : String} (hclosed : IsClosed source)
    (hcut : ¬ (source.toList.getLast? = some '\\' ∧ startsWithBrace behind.toList)) :
    (Template.parse (source ++ behind)).evaluate? record encoding =
      ((Template.parse source).evaluate? record encoding).bind fun first ↦
        ((Template.parse behind).evaluate? record encoding).map (first ++ ·) := by
  simp only [Template.evaluate?, evaluate_parse_append record encoding hclosed hcut]
  cases (Template.parse source).evaluate record encoding with
  | error missing => rfl
  | ok first => cases (Template.parse behind).evaluate record encoding <;> rfl

theorem evaluate?_parse_separator_append {separator : String}
    (hend : separator.toList.getLast? ≠ some '\\') (behind : String) :
    (Template.parse (String.ofList (escapeBraces separator.toList) ++ behind)).evaluate? record
        encoding = ((Template.parse behind).evaluate? record encoding).map (separator ++ ·) := by
  have hclosed := isClosed_render (expressible_parts_constant separator)
  rw [render_parts_constant, source_constant] at hclosed
  have hvalue := evaluate?_constant separator record encoding
  rw [← parse_source_constant, source_constant] at hvalue
  rw [evaluate?_parse_append hclosed, hvalue]
  · rfl
  · rw [String.toList_ofList, getLast?_escapeBraces]
    exact fun hcut ↦ hend hcut.1

variable {origin : Origin} {text : String}

/-- The rendering of a template is evaluated as the template. -/
theorem evaluate?_parse_render :
    (Template.parse (origin.template text).render).evaluate? record encoding =
      (origin.template text).evaluate? record encoding :=
  Template.evaluate?_congr_parts (parts_parse_render (expressible_parts origin text)) _ _

theorem evaluate?_parse_render_append {behind : String}
    (hbehind : ¬ startsWithBrace behind.toList) :
    (Template.parse ((origin.template text).render ++ behind)).evaluate? record encoding =
      ((origin.template text).evaluate? record encoding).bind fun first ↦
        ((Template.parse behind).evaluate? record encoding).map (first ++ ·) := by
  have hclosed : IsClosed (origin.template text).render :=
    isClosed_render (expressible_parts origin text)
  rw [evaluate?_parse_append hclosed fun hcut ↦ hbehind hcut.2, evaluate?_parse_render]

/-- The renderings of templates with an escaped separator between them, read as one template and
evaluated. -/
theorem evaluate?_parse_intercalate {separator : String} (hempty : separator ≠ "")
    (hend : separator.toList.getLast? ≠ some '\\') {templates : List Template}
    (htemplates : ∀ template ∈ templates, ∃ origin text, template = Origin.template origin text) :
    (Template.parse ((String.ofList (escapeBraces separator.toList)).intercalate
        (templates.map Template.render))).evaluate? record encoding =
      (templates.mapM (Template.evaluate? · record encoding)).map separator.intercalate := by
  induction templates with
  | nil =>
    rw [Template.parse_eq]
    rfl
  | cons template templates ih =>
    obtain ⟨⟨origin, text, rfl⟩, hothers⟩ := List.forall_mem_cons.mp htemplates
    have hrest := ih hothers
    rw [List.mapM_cons]
    cases templates with
    | nil =>
      rw [List.map_singleton, String.intercalate_singleton, evaluate?_parse_render]
      cases (origin.template text).evaluate? record encoding <;> simp
    | cons second templates =>
      -- behind the first rendering come the separator and a text of the same form
      have hbehind (rest : String) : ¬ startsWithBrace
          (String.ofList (escapeBraces separator.toList) ++ rest).toList := by
        rw [String.toList_append, String.toList_ofList]
        exact not_startsWithBrace_escapeBraces_append (mt String.toList_eq_nil_iff.mp hempty) _
      rw [List.map_cons, List.map_cons, String.intercalate_cons_cons, String.append_assoc,
        evaluate?_parse_render_append (hbehind _), evaluate?_parse_separator_append hend,
        ← List.map_cons, hrest, List.mapM_cons]
      cases (origin.template text).evaluate? record encoding with
      | none => rfl
      | some first =>
        cases second.evaluate? record encoding with
        | none => rfl
        | some output =>
          cases templates.mapM (Template.evaluate? · record encoding) with
          | none => rfl
          | some outputs => simp [String.append_assoc]

end

/-! ### Batches -/

theorem isSome_mapM_iff {α β : Type} {read : α → Option β} {items : List α} :
    (items.mapM read).isSome ↔ ∀ item ∈ items, (read item).isSome := by
  induction items with
  | nil => simp
  | cons item items ih =>
    rw [List.mapM_cons, List.forall_mem_cons, ← ih]
    cases read item with
    | none => simp
    | some first => cases items.mapM read <;> simp

namespace Batch

/-- The outputs of a batch, wherever its indices start. -/
theorem value_outputsFrom (encoding : Encoding) (index : Nat) (batch : Batch) :
    (outputsFrom encoding index batch).value =
      batch.mapM fun pair ↦ pair.1.evaluate? pair.2 encoding := by
  induction batch generalizing index with
  | nil => rfl
  | cons pair batch ih =>
    obtain ⟨template, record⟩ := pair
    rw [outputsFrom, List.mapM_cons]
    cases houtput : template.evaluate record encoding with
    | error missing =>
      have hnone : template.evaluate? record encoding = none := congrArg Except.toOption houtput
      rw [hnone]
      rfl
    | ok output =>
      have hsome : template.evaluate? record encoding = some output :=
        congrArg Except.toOption houtput
      rw [hsome]
      show (outputsFrom encoding (index + 1) batch).value.map (output :: ·) = _
      rw [ih]
      cases List.mapM (fun pair ↦ pair.1.evaluate? pair.2 encoding) batch <;> rfl

theorem value_joined (templates : List Template) (record : Record) (encoding : Encoding)
    (separator : String) :
    (joined (templates.map (·, record)) encoding separator).value =
      (templates.mapM (Template.evaluate? · record encoding)).map separator.intercalate := by
  rw [joined, outputs, value_outputsFrom, List.mapM_map]
  rfl

end Batch

/-- One template has the joined outputs of many: it is read from their renderings with the separator
between them, the braces of the separator escaped. There is an output exactly if each of the many
has one. -/
theorem joined_eq_evaluate_parse {separator : String} (hempty : separator ≠ "")
    (hend : separator.toList.getLast? ≠ some '\\') {templates : List Template}
    (htemplates : ∀ template ∈ templates, ∃ origin text, template = Origin.template origin text)
    (record : Record) (encoding : Encoding) :
    (Batch.joined (templates.map (·, record)) encoding separator).value =
        (Template.parse ((String.ofList (escapeBraces separator.toList)).intercalate
          (templates.map Template.render))).evaluate? record encoding ∧
      ((Batch.joined (templates.map (·, record)) encoding separator).value.isSome ↔
        ∀ template ∈ templates, (template.evaluate? record encoding).isSome) := by
  rw [evaluate?_parse_intercalate hempty hend htemplates, Batch.value_joined, Option.isSome_map]
  exact ⟨rfl, isSome_mapM_iff⟩

/-- An empty template, a constant that ends in a backslash and a reference, with a separator that is
made of a backslash and a brace. -/
theorem joined_eq_evaluate_parse_backslash :
    let templates := [Template.parse "", Template.constant "a\\", Template.parse "\x7bx\x7d"]
    let record := Record.ofPairs [("x", "\x7d")]
    "\\\x7b" ≠ "" ∧ "\\\x7b".toList.getLast? ≠ some '\\' ∧
      (∀ template ∈ templates, ∃ origin text, template = Origin.template origin text) ∧
      (Batch.joined (templates.map (·, record)) .raw "\\\x7b").value =
        (Template.parse "\\\\\x7ba\\\\\\\x7b\x7bx\x7d").evaluate? record .raw ∧
      (Batch.joined (templates.map (·, record)) .raw "\\\x7b").value =
        some "\\\x7ba\\\\\x7b\x7d" := by
  intro templates record
  have hempty : "\\\x7b" ≠ "" := by decide
  have hend : "\\\x7b".toList.getLast? ≠ some '\\' := by decide
  have htemplates :
      ∀ template ∈ templates, ∃ origin text, template = Origin.template origin text := by
    simp only [templates, List.forall_mem_cons]
    exact ⟨⟨.source, _, rfl⟩, ⟨.value, _, rfl⟩, ⟨.source, _, rfl⟩, List.forall_mem_nil _⟩
  have hsource : (String.ofList (escapeBraces "\\\x7b".toList)).intercalate
      (templates.map Template.render) = "\\\\\x7ba\\\\\\\x7b\x7bx\x7d" := by
    decide +kernel
  refine ⟨hempty, hend, htemplates, ?_, by decide +kernel⟩
  rw [← hsource]
  exact (joined_eq_evaluate_parse hempty hend htemplates record .raw).1

-- with nothing between the renderings, the backslash escapes the brace
example : (Template.parse ((Template.constant "\\").render ++
    (Template.parse "\x7bx\x7d").render)).references = [] := by
  decide +kernel

end RecordTemplate
