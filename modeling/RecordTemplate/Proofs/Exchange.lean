import RecordTemplate.Proofs.Constants
import RecordTemplate.Proofs.JsonStrings
import RecordTemplate.Session

/-!
Templates and rules written as JSON and read again. A template is written as its source, so what
comes back is what its source is read as (`read_template`), and that is the template itself if it
was built from a source or a value (`Template.IsFaithful`). A rule comes back with both its parts
(`exchange_rule_roundTrip`), straight from the text, where the template comes first, and by way of
a JSON value, of which the encoding is looked at first.
-/

set_option autoImplicit false
set_option relaxedAutoImplicit false

namespace RecordTemplate

/-! ### Faithful templates -/

/-- A template is the one that its source is read as. -/
def Template.IsFaithful (template : Template) : Prop :=
  Template.parse template.source = template

theorem isFaithful_template (origin : Origin) (text : String) :
    (origin.template text).IsFaithful := by
  cases origin with
  | source => exact rfl
  | value => exact parse_source_constant text

/-- Faithful templates with the same source are the same. -/
theorem Template.IsFaithful.eq_iff {template other : Template} (htemplate : template.IsFaithful)
    (hother : other.IsFaithful) : template = other ↔ template.source = other.source := by
  constructor
  · exact congrArg Template.source
  · intro hsource
    rw [← htemplate, hsource, hother]

/-! ### Reading values -/

namespace Json

variable {purpose : Purpose} {stack : List Frame} {text rest after : List Char}

theorem readStart_encode_append (value : String) (rest : List Char) :
    readStart purpose stack (StringLiteral.encode value.toList ++ rest) =
      .ok (.value (string value), rest) := by
  have hatom := readAtom_encode_append purpose value rest
  rw [StringLiteral.encode_append] at hatom ⊢
  rw [readStart, skipBlanks_cons (by decide)]
  show (readAtom purpose ('"' :: _)).map _ = _
  rw [hatom]
  rfl

/-- How the reading of a value goes on behind its start, without the proofs that it ends. -/
theorem readValue_eq (purpose : Purpose) (stack : List Frame) (text : List Char) :
    readValue purpose stack text =
      match readStart purpose stack text with
      | .error fault => .error fault
      | .ok (.opened frame, rest) => readValue purpose (frame :: stack) rest
      | .ok (.value value, rest) =>
        match resume purpose stack value rest with
        | .error fault => .error fault
        | .ok (.finished value, after) => .ok (value, after)
        | .ok (.unfinished stack, after) => readValue purpose stack after := by
  rw [readValue]
  split
  · next hstart => simp only [hstart]
  · next hstart => simp only [hstart]
  · next hstart =>
    split
    · next hresume => simp only [hstart, hresume]
    · next hresume => simp only [hstart, hresume]
    · next hresume => simp only [hstart, hresume]

theorem readStart_opening (hopen : mayOpen purpose stack = true) (name : String)
    (rest : List Char) :
    readStart purpose stack ('{' :: (StringLiteral.encode name.toList ++ ':' :: rest)) =
      .ok (.opened (.object [] name), rest) := by
  have hname := readName_encode_append purpose name rest
  rw [StringLiteral.encode_append] at hname ⊢
  rw [readStart, skipBlanks_cons (by decide)]
  show (if mayOpen purpose stack = true then (readName purpose ('"' :: _)).map _ else _) = _
  rw [if_pos hopen, hname]
  rfl

/-- An object opens with the name of its first member. -/
theorem readValue_opening (hopen : mayOpen purpose stack = true) (name : String)
    (rest : List Char) :
    readValue purpose stack ('{' :: (StringLiteral.encode name.toList ++ ':' :: rest)) =
      readValue purpose (.object [] name :: stack) rest := by
  rw [readValue_eq, readStart_opening hopen]

/-- Behind a value of an object comes the name of the next one. -/
theorem resume_member (members : List (String × Json)) (name next : String) (value : Json)
    (rest : List Char) :
    resume purpose (.object members name :: stack) value
        (',' :: (StringLiteral.encode next.toList ++ ':' :: rest)) =
      .ok (.unfinished (.object ((name, value) :: members) next :: stack), rest) := by
  show (readName purpose _).map _ = _
  rw [readName_encode_append]
  rfl

theorem readValue_member (members : List (String × Json)) (name value next : String)
    (rest : List Char) :
    readValue purpose (.object members name :: stack)
        (StringLiteral.encode value.toList ++
          ',' :: (StringLiteral.encode next.toList ++ ':' :: rest)) =
      readValue purpose (.object ((name, string value) :: members) next :: stack) rest := by
  rw [readValue_eq, readStart_encode_append]
  dsimp only
  rw [resume_member]

/-- Behind the last member the object is closed. -/
theorem readValue_closing (members : List (String × Json)) (name value : String)
    (rest : List Char) :
    readValue purpose [.object members name]
        (StringLiteral.encode value.toList ++ '}' :: rest) =
      .ok (object ((name, string value) :: members).reverse, rest) := by
  rw [readValue_eq, readStart_encode_append]
  rfl

end Json

/-! ### Names -/

theorem Encoding.named_name (encoding : Encoding) : named encoding.name = .ok encoding := by
  rw [named, ofName?_name]

theorem Member.ofName?_name (member : Member) : ofName? member.name = some member := by
  cases member <;> rfl

/-! ### Reading members -/

namespace Direct

theorem readString_encode_append (expected : Expectation) (text : String) (rest : List Char) :
    readString expected (Json.StringLiteral.encode text.toList ++ rest) = .ok (text, rest) := by
  have hstring := Json.readString_encode_append .keep text rest
  rw [Json.StringLiteral.encode_append] at hstring ⊢
  show (Json.readString .keep ('"' :: _)).mapError _ = _
  exact mapError_eq_ok.mpr hstring

/-- What stands where a template is expected is a source. -/
theorem readTemplate_encode_append (source : String) (rest : List Char) :
    readTemplate (Json.StringLiteral.encode source.toList ++ rest) =
      .ok (Template.parse source, rest) := by
  rw [readTemplate, readString_encode_append]
  rfl

theorem readEncoding_encode_append (encoding : Encoding) (rest : List Char) :
    readEncoding (Json.StringLiteral.encode encoding.name.toList ++ rest) =
      .ok (encoding, rest) := by
  have hstring := Json.readString_encode_append .keep encoding.name rest
  rw [Json.StringLiteral.encode_append] at hstring ⊢
  have hnamed := Encoding.named_name encoding
  show readEncodingName ('"' :: _) = _
  exact bind_eq_ok.mpr ⟨_, mapError_eq_ok.mpr hstring,
    bind_eq_ok.mpr ⟨encoding, mapError_eq_ok.mpr hnamed, rfl⟩⟩

/-- A member that has not come before is known by its name. -/
theorem readMember_name {draft : Draft} {member : Member} (hnew : draft.has member = false)
    {rest : List Char} {result : Draft × List Char}
    (hvalue : readMemberValue draft (some member) rest = .ok result) :
    readMember draft (Json.StringLiteral.encode member.name.toList ++ ':' :: rest) =
      .ok result := by
  have hfilter : (some member).filter draft.has = none := by
    rw [Option.filter_some, hnew]
    rfl
  have hname := Json.readString_encode_append .keep member.name (':' :: rest)
  refine bind_eq_ok.mpr ⟨_, mapError_eq_ok.mpr hname, ?_⟩
  dsimp only
  rw [Member.ofName?_name, hfilter]
  exact hvalue

theorem readMember_template {draft : Draft} (hnew : draft.has .template = false) (source : String)
    (rest : List Char) :
    readMember draft (Json.StringLiteral.encode Member.template.name.toList ++
        ':' :: (Json.StringLiteral.encode source.toList ++ rest)) =
      .ok ({ draft with template? := some (Template.parse source) }, rest) :=
  readMember_name hnew (bind_eq_ok.mpr ⟨_, readTemplate_encode_append source rest, rfl⟩)

theorem readMember_encoding {draft : Draft} (hnew : draft.has .encoding = false)
    (encoding : Encoding) (rest : List Char) :
    readMember draft (Json.StringLiteral.encode Member.encoding.name.toList ++
        ':' :: (Json.StringLiteral.encode encoding.name.toList ++ rest)) =
      .ok ({ draft with encoding? := some encoding }, rest) :=
  readMember_name hnew (bind_eq_ok.mpr ⟨_, readEncoding_encode_append encoding rest, rfl⟩)

/-- How the reading of members goes on behind one of them, without the proofs that it ends. -/
theorem readMembers_eq (draft : Draft) (text : List Char) :
    readMembers draft text =
      match readMember draft text with
      | .error error => .error error
      | .ok (draft, rest) =>
        match Json.skipBlanks rest with
        | '}' :: after => .ok (draft, after)
        | ',' :: after => readMembers draft after
        | rest => .error (.fault (.ofRest rest)) := by
  rw [readMembers]
  split
  · next hmember => simp only [hmember]
  · next hmember =>
    simp only [hmember]
    split
    · next hclosing => simp only [hclosing]
    · next hcomma => simp only [hcomma]
    · simp only

variable {draft draft' : Draft} {text after : List Char}

/-- Behind a comma comes another member. -/
theorem readMembers_of_comma (hmember : readMember draft text = .ok (draft', ',' :: after)) :
    readMembers draft text = readMembers draft' after := by
  rw [readMembers_eq, hmember]
  rfl

/-- A bracket ends the members. -/
theorem readMembers_of_closing (hmember : readMember draft text = .ok (draft', '}' :: after)) :
    readMembers draft text = .ok (draft', after) := by
  rw [readMembers_eq, hmember]
  rfl

theorem readRule_of_readMembers {rule : Rule}
    (hmembers : readMembers .empty ('"' :: text) = .ok (draft, after))
    (hrule : draft.toRule = .ok rule) : readRule ('{' :: '"' :: text) = .ok (rule, after) :=
  bind_eq_ok.mpr ⟨(draft, after), hmembers, bind_eq_ok.mpr ⟨rule, hrule, rfl⟩⟩

end Direct

/-! ### Whole texts -/

theorem Direct.read_of_reader {α : Type} {reader : List Char → Except ReadError (α × List Char)}
    {text : String} {value : α} (hread : reader text.toList = .ok (value, [])) :
    read reader text = .ok value :=
  bind_eq_ok.mpr ⟨_, hread, rfl⟩

theorem Json.parse_of_readValue {text : String} {value : Json}
    (hread : readValue .keep [] text.toList = .ok (value, [])) : parse text = .ok value := by
  rw [parse, read, hread]
  rfl

theorem Json.convert_of_parse {α : Type} {ofJson : Json → Except Mismatch α} {text : String}
    {value : Json} (hparse : parse text = .ok value) :
    convert ofJson text = (ofJson value).mapError .mismatch := by
  rw [convert, hparse]
  rfl

/-! ### Templates -/

theorem toList_render_template (template : Template) :
    template.toJson.render.toList = Json.StringLiteral.encode template.source.toList ++ [] := by
  rw [Json.render, String.toList_ofList, Template.toJson, Json.chars, List.append_nil]

/-- A template that is written and read again is what its source is read as. -/
theorem read_template (template : Template) :
    Direct.read Direct.readTemplate template.toJson.render =
      .ok (Template.parse template.source) := by
  apply Direct.read_of_reader
  rw [toList_render_template, Direct.readTemplate_encode_append]

theorem convert_template (template : Template) :
    Json.convert Template.ofJson template.toJson.render =
      .ok (Template.parse template.source) := by
  have hparse : Json.parse template.toJson.render = .ok template.toJson := by
    apply Json.parse_of_readValue
    rw [toList_render_template, Json.readValue_eq, Json.readStart_encode_append]
    rfl
  rw [Json.convert_of_parse hparse]
  rfl

/-! ### Rules -/

theorem toList_render_rule (rule : Rule) :
    rule.toJson.render.toList =
      '{' :: (Json.StringLiteral.encode Member.template.name.toList ++
        ':' :: (Json.StringLiteral.encode rule.template.source.toList ++
          ',' :: (Json.StringLiteral.encode Member.encoding.name.toList ++
            ':' :: (Json.StringLiteral.encode rule.encoding.name.toList ++ ['}'])))) := by
  simp [Json.render, Rule.toJson, Template.toJson, Encoding.toJson, Json.chars, Json.memberChars]

/-- A rule that is written and read again has what the source of its template is read as, and its
encoding. -/
theorem read_rule (rule : Rule) :
    Direct.read Direct.readRule rule.toJson.render =
      .ok ⟨Template.parse rule.template.source, rule.encoding⟩ := by
  have hmembers := Direct.readMembers_of_comma
    (@Direct.readMember_template .empty rfl rule.template.source
      (',' :: (Json.StringLiteral.encode Member.encoding.name.toList ++
        ':' :: (Json.StringLiteral.encode rule.encoding.name.toList ++ ['}']))))
  rw [Direct.readMembers_of_closing (Direct.readMember_encoding rfl _ _)] at hmembers
  apply Direct.read_of_reader
  rw [toList_render_rule]
  exact Direct.readRule_of_readMembers hmembers rfl

theorem parse_render_rule (rule : Rule) : Json.parse rule.toJson.render = .ok rule.toJson := by
  apply Json.parse_of_readValue
  rw [toList_render_rule, Json.readValue_opening rfl, Json.readValue_member,
    Json.readValue_closing]
  rfl

/-- By way of a value the encoding is looked at first. -/
theorem convert_rule (rule : Rule) :
    Json.convert Rule.ofJson rule.toJson.render =
      .ok ⟨Template.parse rule.template.source, rule.encoding⟩ := by
  have hrule : Rule.ofJson rule.toJson =
      .ok ⟨Template.parse rule.template.source, rule.encoding⟩ :=
    Direct.bind_eq_ok.mpr ⟨rule.encoding, Encoding.named_name rule.encoding, rfl⟩
  rw [Json.convert_of_parse (parse_render_rule rule), hrule]
  rfl

/-! ### What can be built -/

/-- A derivation never fails. It leads to the template that it starts from, or to the template of
some text. -/
theorem Derivation.apply_cases (derivation : Derivation) (template : Template) :
    derivation.apply template = .ok template ∨
      ∃ origin text, derivation.apply template = .ok (Origin.template origin text) := by
  cases derivation with
  | copy => exact .inl rfl
  | ofSource origin => exact .inr ⟨origin, template.source, rfl⟩
  | ofRendering origin => exact .inr ⟨origin, template.render, rfl⟩
  | exchange => exact .inr ⟨.source, template.source, read_template template⟩

/-- The templates that can be built: from a text, and from one another. -/
inductive Template.Built : Template → Prop
  | ofText (origin : Origin) (text : String) : Built (origin.template text)
  | derive {template derived : Template} (derivation : Derivation) (htemplate : Built template)
    (happly : derivation.apply template = .ok derived) : Built derived

theorem Template.Built.isFaithful {template : Template} (htemplate : template.Built) :
    template.IsFaithful := by
  induction htemplate with
  | ofText origin text => exact isFaithful_template origin text
  | derive derivation _ happly ih =>
    obtain hsame | ⟨origin, text, htext⟩ := Derivation.apply_cases derivation _
    · rw [hsame] at happly
      exact Except.ok.inj happly ▸ ih
    · rw [htext] at happly
      exact Except.ok.inj happly ▸ isFaithful_template origin text

/-- The rules that can be built: from a template and an encoding, from the source of a template, or
from a value. -/
inductive Rule.Built : Rule → Prop
  | ofTemplate {template : Template} (encoding : Encoding) (htemplate : template.Built) :
    Built ⟨template, encoding⟩
  | ofSource (source : String) (encodeReferences : Bool) : Built (.ofSource source encodeReferences)
  | ofValue (value : String) : Built (.ofValue value)

theorem Rule.Built.isFaithful {rule : Rule} (hrule : rule.Built) : rule.template.IsFaithful := by
  cases hrule with
  | ofTemplate _ htemplate => exact htemplate.isFaithful
  | ofSource source => exact isFaithful_template .source source
  | ofValue value => exact isFaithful_template .value value

/-- A rule that is written and read again is the same rule, straight from the text and by way of a
value alike, so it has the same output for every record. -/
theorem exchange_rule_roundTrip {rule : Rule} (hrule : rule.Built) :
    Direct.read Direct.readRule rule.toJson.render = .ok rule ∧
      Json.convert Rule.ofJson rule.toJson.render = .ok rule ∧
        ∀ copy, (Direct.read Direct.readRule rule.toJson.render = .ok copy ∨
            Json.convert Rule.ofJson rule.toJson.render = .ok copy) →
          ∀ record, copy.apply record = rule.apply record := by
  have hfaithful : Template.parse rule.template.source = rule.template := hrule.isFaithful
  have hread := read_rule rule
  have hconvert := convert_rule rule
  rw [hfaithful] at hread hconvert
  refine ⟨hread, hconvert, fun copy hcopy record ↦ ?_⟩
  have hsame : copy = rule := by
    obtain hcopy | hcopy := hcopy
    · exact Except.ok.inj (hcopy.symm.trans hread)
    · exact Except.ok.inj (hcopy.symm.trans hconvert)
  rw [hsame]

/-- The value of a rule with a quote, a brace, a backslash and a line break in it. -/
theorem exchange_rule_roundTrip_ofValue :
    (Rule.ofValue "\"\x7b\\\n").Built ∧
      (Rule.ofValue "\"\x7b\\\n").toJson.render =
        "\x7b\"template\":\"\\\"\\\\\x7b\\\\\\n\",\"encoding\":\"raw\"\x7d" ∧
      Direct.read Direct.readRule (Rule.ofValue "\"\x7b\\\n").toJson.render =
        .ok (Rule.ofValue "\"\x7b\\\n") ∧
      Json.convert Rule.ofJson (Rule.ofValue "\"\x7b\\\n").toJson.render =
        .ok (Rule.ofValue "\"\x7b\\\n") := by
  obtain ⟨hread, hconvert, _⟩ := exchange_rule_roundTrip (.ofValue "\"\x7b\\\n")
  exact ⟨.ofValue _, rfl, hread, hconvert⟩

end RecordTemplate
