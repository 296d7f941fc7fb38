import RecordTemplate.Proofs.Exchange
import RecordTemplate.Record.Table

/-!
What an evaluation takes from a record. Nothing but the values of the fields that the template
refers to: records that agree on these give the same result (`Template.evaluate_congr`). A record
that has at least the values of another one (`Record.Extends`) gives the same output if the other
one gives any, and otherwise fails no earlier in the source (`evaluate_of_extends`).

How a record is kept does not matter either. A line of a table can be looked up below its header,
searched as a list of pairs, or stored under the names of its columns, the last cell first. In each
case one more column in front is one more insertion over what the other columns give
(`Record.ofPairs_cons`, `Row.record_cons`), so all three are the same record, whichever names are
repeated and whichever of the two lists is the longer one (`evaluate_row_eq`).
-/

set_option autoImplicit false
set_option relaxedAutoImplicit false

namespace RecordTemplate

/-! ### Records that have the same values -/

/-- One record has every value that another one has for these fields. -/
def Record.Extends (fuller record : Record) (names : List String) : Prop :=
  ∀ name ∈ names, ∀ value, record name = some value → fuller name = some value

section

variable {record fuller other : Record} {names : List String} {values : String → String}

theorem Record.Gives.of_extends (hextends : fuller.Extends record names)
    (hvalues : record.Gives values names) : fuller.Gives values names :=
  fun name hname ↦ hextends name hname _ (hvalues name hname)

theorem Record.Extends.eq_none {name : String} (hextends : fuller.Extends record names)
    (hname : name ∈ names) (hfuller : fuller name = none) : record name = none := by
  refine Option.eq_none_iff_forall_ne_some.mpr fun value hvalue ↦ ?_
  rw [hextends name hname value hvalue] at hfuller
  contradiction

namespace Template

variable {template : Template} {encoding : Encoding}

/-- Records that agree on the fields that a template refers to give the same result. -/
theorem evaluate_congr (hagree : ∀ name ∈ template.references, record name = other name) :
    template.evaluate record encoding = template.evaluate other encoding := by
  rcases Segment.values_or_missing template.segments record with
    ⟨values, hvalues⟩ | ⟨before, name, range, after, hsegments, hbefore, hname⟩
  · have hother : other.Gives values template.references := by
      intro name hname
      rw [← hagree name hname]
      exact hvalues name hname
    rw [evaluate_of_values hvalues, evaluate_of_values hother]
  · have hreferences : template.references =
        Part.names (before.map Segment.part) ++ name :: Part.names (after.map Segment.part) := by
      rw [references, parts, hsegments, List.map_append, List.filterMap_append]
      rfl
    rw [hreferences, List.forall_mem_append, List.forall_mem_cons] at hagree
    obtain ⟨hagreeBefore, hagreeName, -⟩ := hagree
    have hotherBefore : ∀ field ∈ Part.names (before.map Segment.part), (other field).isSome := by
      intro field hfield
      rw [← hagreeBefore field hfield]
      exact hbefore field hfield
    rw [evaluate_of_missing hsegments hbefore hname,
      evaluate_of_missing hsegments hotherBefore (hagreeName.symm.trans hname)]

/-- An output is kept when the record gets more values. -/
theorem evaluate?_of_extends (hextends : fuller.Extends record template.references)
    {output : String} (houtput : template.evaluate? record encoding = some output) :
    template.evaluate? fuller encoding = some output := by
  obtain ⟨values, hvalues, rfl⟩ := evaluate?_eq_some_iff.mp houtput
  exact evaluate?_eq_some_iff.mpr ⟨values, hvalues.of_extends hextends, rfl⟩

end Template

/-- A record with fewer values fails no later in the source. -/
theorem exists_error_of_extends {source : String} {encoding : Encoding}
    (hextends : fuller.Extends record (Template.parse source).references) {missing : MissingField}
    (hmissing : (Template.parse source).evaluate fuller encoding = .error missing) :
    ∃ earlier, (Template.parse source).evaluate record encoding = .error earlier ∧
      earlier.position ≤ missing.position := by
  have hfirst : missing.IsFirst source fuller := evaluate_parse_eq_error_iff.mp hmissing
  have hreference : missing.name ∈ (Template.parse source).references :=
    Segment.mem_names_iff.mpr ⟨missing.range, hfirst.is_reference⟩
  have hnone : record missing.name = none := hextends.eq_none hreference hfirst.no_value
  cases hresult : (Template.parse source).evaluate record encoding with
  | ok output =>
    obtain ⟨values, hvalues, -⟩ := Template.evaluate_eq_ok_iff.mp hresult
    rw [hvalues _ hreference] at hnone
    contradiction
  | error earlier =>
    refine ⟨earlier, rfl, Nat.le_of_not_lt fun hlt ↦ ?_⟩
    -- every reference before the one that is blamed has a value
    have hsome := (evaluate_parse_eq_error_iff.mp hresult).first _ _ hfirst.is_reference hlt
    rw [hnone] at hsome
    contradiction

end

/-- The result of a template depends on the fields that it refers to and on nothing else. With more
values for them an output stays what it is, and an evaluation that still fails has come at least as
far. -/
theorem evaluate_of_extends (origin : Origin) (text : String) (encoding : Encoding)
    (record fuller : Record) :
    (fuller.Extends record (origin.template text).references →
      (∀ output, (origin.template text).evaluate? record encoding = some output →
        (origin.template text).evaluate? fuller encoding = some output) ∧
      ∀ missing, (origin.template text).evaluate fuller encoding = .error missing →
        ∃ earlier, (origin.template text).evaluate record encoding = .error earlier ∧
          earlier.position ≤ missing.position) ∧
    ((∀ name ∈ (origin.template text).references, record name = fuller name) →
      (origin.template text).evaluate record encoding =
        (origin.template text).evaluate fuller encoding) := by
  refine ⟨fun hextends ↦ ⟨fun _ ↦ Template.evaluate?_of_extends hextends, fun missing ↦ ?_⟩,
    Template.evaluate_congr⟩
  have hfaithful : Template.parse (origin.template text).source = origin.template text :=
    isFaithful_template origin text
  rw [← hfaithful] at hextends ⊢
  exact exists_error_of_extends hextends

/-- Three references, of which a record has values for one, for two, or for all of them. -/
theorem evaluate_of_extends_three_fields :
    let template := Origin.source.template "\x7ba\x7d/\x7bb\x7d/\x7bc\x7d"
    let sparse := Record.ofPairs [("b", "y")]
    let denser := Record.ofPairs [("a", "x"), ("b", "y")]
    let complete := Record.ofPairs [("a", "x"), ("b", "y"), ("c", "z")]
    let wider := Record.ofPairs [("d", "w"), ("c", "z"), ("b", "y"), ("a", "x")]
    denser.Extends sparse template.references ∧
      template.evaluate denser .raw = .error ⟨9, 1, "c"⟩ ∧
      (∃ earlier, template.evaluate sparse .raw = .error earlier ∧ earlier.position ≤ 9) ∧
      wider.Extends complete template.references ∧
      template.evaluate? wider .raw = some "x/y/z" ∧
      (∀ name ∈ template.references, complete name = wider name) ∧
      template.evaluate complete .raw = template.evaluate wider .raw := by
  intro template sparse denser complete wider
  have hreferences : template.references = ["a", "b", "c"] := by decide +kernel
  have hdenser : denser.Extends sparse template.references := by
    rw [hreferences]
    simp [Record.Extends, sparse, denser, Record.ofPairs, List.lookup_cons]
  have hmissing : template.evaluate denser .raw = .error ⟨9, 1, "c"⟩ := by decide +kernel
  have hagree : ∀ name ∈ template.references, complete name = wider name := by
    rw [hreferences]
    decide
  have hwider : wider.Extends complete template.references :=
    fun name hname _ hvalue ↦ (hagree name hname).symm.trans hvalue
  obtain ⟨hsparse, -⟩ := evaluate_of_extends .source _ .raw sparse denser
  obtain ⟨hcomplete, hsame⟩ := evaluate_of_extends .source _ .raw complete wider
  exact ⟨hdenser, hmissing, (hsparse hdenser).2 _ hmissing, hwider,
    (hcomplete hwider).1 _ (by decide +kernel), hagree, hsame hagree⟩

/-! ### Lines of a table -/

namespace Record

theorem ofPairs_cons (name value : String) (pairs : List (String × String)) :
    ofPairs ((name, value) :: pairs) = (ofPairs pairs).insert name value := by
  funext field
  rw [ofPairs, List.lookup_cons, insert]
  by_cases hfield : field = name
  · rw [if_pos hfield, beq_iff_eq.mpr hfield]
  · rw [if_neg hfield, beq_eq_false_iff_ne.mpr hfield, ofPairs]

theorem ofPairs_eq_foldr (pairs : List (String × String)) :
    ofPairs pairs = pairs.foldr (fun (name, value) record ↦ record.insert name value) empty := by
  induction pairs with
  | nil => rfl
  | cons pair pairs ih => rw [ofPairs_cons, ih, List.foldr_cons]

/-- Of insertions the last one of a name counts, and in a search the first pair. -/
theorem ofInsertions_reverse (pairs : List (String × String)) :
    ofInsertions pairs.reverse = ofPairs pairs := by
  rw [ofInsertions, List.foldl_reverse, ofPairs_eq_foldr]

end Record

namespace Row

theorem record_row_nil (columns : List String) :
    (Header.row ⟨columns⟩ []).record = Record.empty := by
  funext field
  simp [record, Header.row, Record.empty]

theorem record_cons (column cell : String) (columns cells : List String) :
    (Header.row ⟨column :: columns⟩ (cell :: cells)).record =
      (Header.row ⟨columns⟩ cells).record.insert column cell := by
  funext field
  rw [record, Header.position?, Header.row, List.findIdx?_cons, Record.insert]
  by_cases hfield : field = column
  · rw [if_pos hfield, if_pos (beq_iff_eq.mpr hfield.symm)]
    rfl
  · rw [if_neg hfield, if_neg (by simpa using Ne.symm hfield), Option.bind_map]
    rfl

/-- The record of a row is that of its columns paired with its cells: the first column with a name
counts, and a name whose first column lies behind the last cell has no value. -/
theorem record_row (columns cells : List String) :
    (Header.row ⟨columns⟩ cells).record = Record.ofPairs (columns.zip cells) := by
  induction columns generalizing cells with
  | nil => rfl
  | cons column columns ih =>
    cases cells with
    | nil => rw [record_row_nil, List.zip_nil_right, Record.ofPairs_eq_foldr, List.foldr_nil]
    | cons cell cells => rw [record_cons, ih, List.zip_cons_cons, Record.ofPairs_cons]

-- one more column with the name of the first one, and two with the same name behind the last cell
example : (Header.row ⟨["a", "b", "a"]⟩ ["1"]).record "a" = some "1" ∧
    (Header.row ⟨["a", "b", "b"]⟩ ["1"]).record "b" = none := by
  decide

end Row

/-- A line of a table gives the same result as a row below a header, as a list of pairs and as a
table of insertions from the last pair to the first one. -/
theorem evaluate_row_eq (columns cells : List String) (template : Template) (encoding : Encoding) :
    template.evaluate (Header.row ⟨columns⟩ cells).record encoding =
        template.evaluate (Record.ofPairs (columns.zip cells)) encoding ∧
      template.evaluate (Header.row ⟨columns⟩ cells).record encoding =
        template.evaluate (Record.ofInsertions (columns.zip cells).reverse) encoding := by
  rw [Record.ofInsertions_reverse, Row.record_row]
  exact ⟨rfl, rfl⟩

end RecordTemplate
