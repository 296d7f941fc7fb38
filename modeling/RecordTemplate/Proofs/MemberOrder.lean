import RecordTemplate.Proofs.DirectRules

/-!
The order of members and unknown members. Two JSON values may differ in the order in which the
members of their objects are written, at any depth (`Json.Reordered`). Such values are proper
together (`Json.Reordered.proper`), have the same numbers in range (`Json.Reordered.inRange_eq`) and
stand for the same rule (`Json.Reordered.toOption_rule`). Members of the outermost object that are
not known count for nothing (`Rule.ofJson_known`).

Straight from the text a rule is therefore read alike from every order of the members, and whatever
the unknown members are. By way of a value it is read alike as well, unless an unknown member holds
a number that overflows when its significand, rounded to a floating-point number, is scaled by the
power of ten: then there is no value (`read_render_of_reordered`). Known members cannot make such a
difference, as a rule has no number in it (`Rule.inRange_of_ofJson`).
-/

set_option autoImplicit false
set_option relaxedAutoImplicit false

namespace RecordTemplate

/-! ### Order -/

namespace Json

/-- The members of objects within a value written in another order. -/
inductive Reordered : Json → Json → Prop
  | refl (value : Json) : Reordered value value
  | trans {first second third : Json} (hfirst : Reordered first second)
    (hsecond : Reordered second third) : Reordered first third
  | members {members others : List (String × Json)} (hperm : members.Perm others) :
    Reordered (object members) (object others)
  | inMember {value other : Json} (before : List (String × Json)) (name : String)
    (after : List (String × Json)) (hvalue : Reordered value other) :
    Reordered (object (before ++ (name, value) :: after))
      (object (before ++ (name, other) :: after))
  | inItem {item other : Json} (before after : List Json) (hitem : Reordered item other) :
    Reordered (array (before ++ item :: after)) (array (before ++ other :: after))

namespace Reordered

variable {value other : Json}

theorem shape_eq (horder : value.Reordered other) : value.shape = other.shape := by
  induction horder with
  | trans _ _ ihfirst ihsecond => exact ihfirst.trans ihsecond
  | _ => rfl

theorem inRange_eq (horder : value.Reordered other) : value.inRange = other.inRange := by
  induction horder with
  | refl => rfl
  | trans _ _ ihfirst ihsecond => exact ihfirst.trans ihsecond
  | members hperm =>
    rw [inRange, inRange, membersInRange_eq_all, membersInRange_eq_all, hperm.all_eq]
  | inMember before name after _ ih =>
    simp only [inRange, membersInRange_eq_all, List.all_append, List.all_cons, ih]
  | inItem before after _ ih =>
    simp only [inRange, itemsInRange_eq_all, List.all_append, List.all_cons, ih]

theorem proper {depth : Nat} (horder : value.Reordered other) (hvalue : value.Proper depth) :
    other.Proper depth := by
  induction horder generalizing depth with
  | refl => exact hvalue
  | trans _ _ ihfirst ihsecond => exact ihsecond (ihfirst hvalue)
  | members hperm =>
    cases hvalue with
    | object hnames hvalues =>
      exact .object ((hperm.map Prod.fst).nodup hnames)
        fun member hmember ↦ hvalues member (hperm.mem_iff.mpr hmember)
  | inMember before name after _ ih =>
    cases hvalue with
    | object hnames hvalues =>
      refine .object (by simpa using hnames) ?_
      rw [List.forall_mem_append, List.forall_mem_cons] at hvalues ⊢
      exact ⟨hvalues.1, ih hvalues.2.1, hvalues.2.2⟩
  | inItem before after _ ih =>
    cases hvalue with
    | array hitems =>
      refine .array ?_
      rw [List.forall_mem_append, List.forall_mem_cons] at hitems ⊢
      exact ⟨hitems.1, ih hitems.2.1, hitems.2.2⟩

end Reordered

end Json

/-! ### Templates and encodings -/

/-- An object that stands for an encoding has its name as only member, and no value. -/
theorem Encoding.toOption_ofJson_object_eq_some {members : List (String × Json)}
    (hnames : (members.map Prod.fst).Nodup) {encoding : Encoding} :
    (ofJson (.object members)).toOption = some encoding ↔
      ∃ name, members = [(name, .null)] ∧ (named name).toOption = some encoding := by
  cases members with
  | nil => simp [ofJson, Json.onlyName?, Except.toOption]
  | cons member members =>
    obtain ⟨name, value⟩ := member
    rw [toOption_ofJson_object hnames]
    constructor
    · intro hsome
      split at hsome
      · next hcase =>
        obtain ⟨hempty, hshape⟩ := hcase
        obtain rfl := List.isEmpty_iff.mp hempty
        obtain rfl := Json.shape_eq_null_iff.mp hshape
        exact ⟨name, rfl, hsome⟩
      · contradiction
    · rintro ⟨_, heq, hnamed⟩
      obtain ⟨⟨rfl, rfl⟩, rfl⟩ : (name = _ ∧ value = _) ∧ members = [] := by simpa using heq
      rw [if_pos ⟨rfl, rfl⟩]
      exact hnamed

theorem Encoding.toOption_ofJson_object_congr {members others : List (String × Json)}
    (hnames : (members.map Prod.fst).Nodup) (hothers : (others.map Prod.fst).Nodup)
    (honly : ∀ name, members = [(name, .null)] ↔ others = [(name, .null)]) :
    (ofJson (.object members)).toOption = (ofJson (.object others)).toOption := by
  refine Option.ext fun encoding ↦ ?_
  rw [toOption_ofJson_object_eq_some hnames, toOption_ofJson_object_eq_some hothers]
  simp only [honly]

namespace Json.Reordered

variable {value other : Json} {depth : Nat}

theorem toOption_template (horder : value.Reordered other) :
    (Template.ofJson value).toOption = (Template.ofJson other).toOption := by
  induction horder with
  | trans _ _ ihfirst ihsecond => exact ihfirst.trans ihsecond
  | _ => rfl

theorem toOption_encoding (horder : value.Reordered other) (hvalue : value.Proper depth) :
    (Encoding.ofJson value).toOption = (Encoding.ofJson other).toOption := by
  induction horder generalizing depth with
  | refl => rfl
  | trans hfirst _ ihfirst ihsecond =>
    exact (ihfirst hvalue).trans (ihsecond (hfirst.proper hvalue))
  | members hperm =>
    cases hvalue with
    | object hnames =>
      refine Encoding.toOption_ofJson_object_congr hnames ((hperm.map Prod.fst).nodup hnames)
        fun name ↦ ?_
      rw [← List.perm_singleton, ← List.perm_singleton, hperm.congr_left]
  | @inMember value other before key after horder _ =>
    have hother := (Reordered.inMember before key after horder).proper hvalue
    have hnull : value = null ↔ other = null := by
      rw [← shape_eq_null_iff, ← shape_eq_null_iff, horder.shape_eq]
    cases hvalue with
    | object hnames =>
      cases hother with
      | object hothers =>
        refine Encoding.toOption_ofJson_object_congr hnames hothers fun name ↦ ?_
        cases before <;> simp [hnull]
  | inItem => rfl

end Json.Reordered

/-! ### Rules -/

/-- Another value of a member is noticed only by those who can tell it from the first one. -/
theorem Json.map_member?_inMember {α : Type} {look : Json → α} {value other : Json}
    (hlook : look value = look other) (before after : List (String × Json)) (key name : String) :
    (member? (before ++ (key, value) :: after) name).map look =
      (member? (before ++ (key, other) :: after) name).map look := by
  simp only [member?, List.reverse_append, List.reverse_cons, List.append_assoc,
    List.singleton_append, List.lookup_append, List.lookup_cons]
  cases after.reverse.lookup name with
  | some => rfl
  | none =>
    cases name == key with
    | false => rfl
    | true => exact congrArg some hlook

/-- What a draft is filled with makes a difference only by what it stands for. -/
theorem Direct.Draft.fill_congr (draft : Draft)
    {template? otherTemplate? encoding? otherEncoding? : Option Json}
    (htemplate : template?.map (fun value ↦ (Template.ofJson value).toOption) =
      otherTemplate?.map fun value ↦ (Template.ofJson value).toOption)
    (hencoding : encoding?.map (fun value ↦ (Encoding.ofJson value).toOption) =
      otherEncoding?.map fun value ↦ (Encoding.ofJson value).toOption) :
    draft.fill template? encoding? = draft.fill otherTemplate? otherEncoding? := by
  have helim {α : Type} (look : Json → Option α) (value? : Option Json)
      (missing : Option (Option α)) :
      value?.elim missing (fun value ↦ (look value).map some) =
        (value?.map look).elim missing (Option.map some) := by
    cases value? <;> rfl
  rw [fill, fill, helim, helim, helim, helim, htemplate, hencoding]

/-- A list stands for a rule by its first two items. -/
theorem Rule.toOption_ofItems (template : Json) (rest : List Json) :
    (ofItems (template :: rest)).toOption =
      (Template.ofJson template).toOption.bind fun template ↦
        (rest.head?.elim (some .raw) fun encoding ↦ (Encoding.ofJson encoding).toOption).bind
          fun encoding ↦ if rest.length ≤ 1 then some ⟨template, encoding⟩ else none := by
  have hencoding : (rest.head?.elim (.ok .raw) Encoding.ofJson).toOption =
      rest.head?.elim (some .raw) fun encoding ↦ (Encoding.ofJson encoding).toOption := by
    cases rest <;> rfl
  simp only [ofItems, toOption_bind, hencoding]
  congr 2
  funext template
  congr 1
  funext encoding
  split <;> rfl

namespace Json.Reordered

variable {value other : Json} {depth : Nat}

/-- The order of members makes no difference to what a value stands for. -/
theorem toOption_rule (horder : value.Reordered other) (hvalue : value.Proper depth) :
    (Rule.ofJson value).toOption = (Rule.ofJson other).toOption := by
  induction horder generalizing depth with
  | refl => rfl
  | trans hfirst _ ihfirst ihsecond =>
    exact (ihfirst hvalue).trans (ihsecond (hfirst.proper hvalue))
  | members hperm =>
    cases hvalue with
    | object hnames =>
      have hothers := (hperm.map Prod.fst).nodup hnames
      rw [Rule.ofJson, Rule.ofJson]
      simp only [member?_eq_lookup hnames, member?_eq_lookup hothers, lookup_of_perm hperm hnames]
  | inMember before name after horder _ =>
    cases hvalue with
    | object hnames hvalues =>
      rw [List.forall_mem_append, List.forall_mem_cons] at hvalues
      rw [Rule.ofJson, Rule.ofJson, Direct.Draft.toOption_ofMembers,
        Direct.Draft.toOption_ofMembers]
      congr 1
      exact Direct.Draft.fill_congr _ (map_member?_inMember horder.toOption_template _ _ _ _)
        (map_member?_inMember (horder.toOption_encoding hvalues.2.1) _ _ _ _)
  | inItem before after horder _ =>
    cases hvalue with
    | array hitems =>
      rw [List.forall_mem_append, List.forall_mem_cons] at hitems
      have htemplate := horder.toOption_template
      have hencoding := horder.toOption_encoding hitems.2.1
      rw [Rule.ofJson, Rule.ofJson]
      -- The item is the template, the encoding, or one that makes the list too long.
      cases before with
      | nil =>
        rw [List.nil_append, List.nil_append, Rule.toOption_ofItems, Rule.toOption_ofItems,
          htemplate]
      | cons first before =>
        rw [List.cons_append, List.cons_append, Rule.toOption_ofItems, Rule.toOption_ofItems]
        cases before with
        | nil =>
          simp only [List.nil_append, List.head?_cons, Option.elim_some, hencoding,
            List.length_cons]
        | cons second before =>
          simp only [List.cons_append, List.head?_cons, List.length_cons, List.length_append]

end Json.Reordered

/-! ### Unknown members -/

/-- A value without the members of its outermost object that no rule has. -/
def Json.known : Json → Json
  | object members => object (members.filter fun member ↦ (Member.ofName? member.1).isSome)
  | value => value

/-- Whether no number within an unknown member of the outermost object overflows when its
significand, rounded to a floating-point number, is scaled by the power of ten. -/
def Json.unknownInRange : Json → Bool
  | object members =>
    members.all fun member ↦ (Member.ofName? member.1).isSome || member.2.inRange
  | _ => true

theorem lookup_filter (keep : String → Bool) {name : String} (hname : keep name = true)
    (members : List (String × Json)) :
    (members.filter fun member ↦ keep member.1).lookup name = members.lookup name := by
  induction members with
  | nil => rfl
  | cons member members ih =>
    obtain ⟨first, value⟩ := member
    rw [List.filter_cons, List.lookup_cons]
    by_cases hkeep : keep first = true
    · rw [if_pos hkeep, List.lookup_cons, ih]
    · have hfirst : name ≠ first := fun hfirst ↦ hkeep (hfirst ▸ hname)
      rw [if_neg hkeep, beq_false_of_ne hfirst, ih]

/-- Members that are not known count for nothing. -/
theorem Rule.ofJson_known (value : Json) : ofJson value.known = ofJson value := by
  have hmember (members : List (String × Json)) (member : Member) :
      Json.member? (members.filter fun member ↦ (Member.ofName? member.1).isSome) member.name =
        Json.member? members member.name := by
    have hname : (Member.ofName? member.name).isSome = true := by
      rw [Member.ofName?_name]
      rfl
    rw [Json.member?, ← List.filter_reverse]
    exact lookup_filter (fun name ↦ (Member.ofName? name).isSome) hname members.reverse
  cases value with
  | object members => rw [Json.known, ofJson, ofJson, hmember, hmember]
  | _ => rfl

theorem Json.Reordered.unknownInRange_eq {value other : Json} (horder : value.Reordered other) :
    value.unknownInRange = other.unknownInRange := by
  induction horder with
  | refl => rfl
  | trans _ _ ihfirst ihsecond => exact ihfirst.trans ihsecond
  | members hperm => rw [unknownInRange, unknownInRange, hperm.all_eq]
  | inMember before name after hvalue _ =>
    simp only [unknownInRange, List.all_append, List.all_cons, hvalue.inRange_eq]
  | inItem => rfl

/-! ### Numbers in rules -/

theorem Template.inRange_of_ofJson {value : Json} {template : Template}
    (htemplate : (ofJson value).toOption = some template) : value.inRange = true := by
  cases value <;> first | rfl | contradiction

theorem Encoding.inRange_of_ofJson {value : Json} {depth : Nat} (hvalue : value.Proper depth)
    {encoding : Encoding} (hencoding : (ofJson value).toOption = some encoding) :
    value.inRange = true := by
  cases hvalue with
  | string => rfl
  | object hnames =>
    obtain ⟨name, rfl, -⟩ := (toOption_ofJson_object_eq_some hnames).mp hencoding
    rfl
  | _ => contradiction

theorem lookup_of_mem {members : List (String × Json)} (hnames : (members.map Prod.fst).Nodup)
    {member : String × Json} (hmember : member ∈ members) :
    members.lookup member.1 = some member.2 := by
  obtain ⟨before, after, rfl⟩ := List.append_of_mem hmember
  rw [lookup_of_perm List.perm_middle hnames]
  exact List.lookup_cons_self

/-- A draft is filled only with what stands for something. -/
theorem Direct.Draft.exists_of_fill {draft filled : Draft} {template? encoding? : Option Json}
    (hfill : draft.fill template? encoding? = some filled) :
    (∀ value ∈ template?, ∃ template, (Template.ofJson value).toOption = some template) ∧
      ∀ value ∈ encoding?, ∃ encoding, (Encoding.ofJson value).toOption = some encoding := by
  obtain ⟨_, htemplate, hrest⟩ := Option.bind_eq_some_iff.mp hfill
  obtain ⟨_, hencoding, -⟩ := Option.bind_eq_some_iff.mp hrest
  constructor
  · rintro value rfl
    obtain ⟨template, hvalue, -⟩ := Option.map_eq_some_iff.mp htemplate
    exact ⟨template, hvalue⟩
  · rintro value rfl
    obtain ⟨encoding, hvalue, -⟩ := Option.map_eq_some_iff.mp hencoding
    exact ⟨encoding, hvalue⟩

/-- In a value that stands for a rule, only unknown members can hold a number. -/
theorem Rule.inRange_of_ofJson {value : Json} {depth : Nat} (hvalue : value.Proper depth)
    {rule : Rule} (hrule : (ofJson value).toOption = some rule) :
    value.inRange = value.unknownInRange := by
  cases hvalue with
  | @array _ items hitems =>
    cases items with
    | nil => contradiction
    | cons template rest =>
      rw [ofJson, toOption_ofItems] at hrule
      obtain ⟨_, htemplate, hrest⟩ := Option.bind_eq_some_iff.mp hrule
      obtain ⟨_, hencoding, hlength⟩ := Option.bind_eq_some_iff.mp hrest
      have hfirst := Template.inRange_of_ofJson htemplate
      cases rest with
      | nil => simp [Json.inRange, Json.itemsInRange, hfirst, Json.unknownInRange]
      | cons encoding others =>
        have hsecond := Encoding.inRange_of_ofJson (hitems encoding (by simp)) hencoding
        cases others with
        | nil => simp [Json.inRange, Json.itemsInRange, hfirst, hsecond, Json.unknownInRange]
        | cons => simp at hlength
  | @object _ members hnames hvalues =>
    rw [ofJson, Json.member?_eq_lookup hnames, Json.member?_eq_lookup hnames,
      Direct.Draft.toOption_ofMembers] at hrule
    obtain ⟨_, hfill, -⟩ := Option.bind_eq_some_iff.mp hrule
    obtain ⟨htemplate, hencoding⟩ := Direct.Draft.exists_of_fill hfill
    have hknown : ∀ member ∈ members, (Member.ofName? member.1).isSome = true →
        member.2.inRange = true := by
      intro member hmember hsome
      have hlookup := lookup_of_mem hnames hmember
      obtain ⟨known, hname⟩ := Option.isSome_iff_exists.mp hsome
      rw [Member.ofName?_eq_some_iff.mp hname] at hlookup
      cases known with
      | template => exact Template.inRange_of_ofJson (htemplate _ hlookup).choose_spec
      | encoding =>
        exact Encoding.inRange_of_ofJson (hvalues member hmember)
          (hencoding _ hlookup).choose_spec
    rw [Json.inRange, Json.membersInRange_eq_all, Json.unknownInRange, Bool.eq_iff_iff,
      List.all_eq_true, List.all_eq_true]
    refine forall₂_congr fun member hmember ↦ ?_
    rw [Bool.or_eq_true]
    exact ⟨.inr, fun hor ↦ hor.elim (hknown member hmember) id⟩
  | _ => contradiction

/-! ### Both ways of reading -/

/-- A rule is read straight from the text of a value alike whatever the order of the members and
whatever the unknown members are. By way of a value it is read alike too, unless an unknown member
holds a number whose significand overflows when it is scaled. -/
theorem read_render_of_reordered {value other written : Json} (hvalue : value.Proper Json.maxDepth)
    (hother : other.Proper Json.maxDepth) (hknown : other.known = value.known)
    (hwritten : other.Reordered written) :
    (Direct.read Direct.readRule written.render).toOption =
        (Direct.read Direct.readRule value.render).toOption ∧
      (Json.convert Rule.ofJson written.render).toOption =
        if other.unknownInRange then (Direct.read Direct.readRule value.render).toOption
        else none := by
  have hproper := hwritten.proper hother
  have hrule : (Rule.ofJson written).toOption = (Rule.ofJson value).toOption := by
    rw [← hwritten.toOption_rule hother, ← Rule.ofJson_known other, hknown, Rule.ofJson_known]
  rw [Direct.read_render hproper, Direct.read_render hvalue, Json.toOption_convert_render hproper]
  refine ⟨hrule, ?_⟩
  cases hresult : (Rule.ofJson written).toOption with
  | none =>
    rw [← hrule, hresult, ite_self, ite_self]
  | some rule =>
    rw [← hrule, hresult, Rule.inRange_of_ofJson hproper hresult, hwritten.unknownInRange_eq]

/-- An object as unknown member in front of the template, and behind it with its own members the
other way round. -/
theorem read_render_of_reordered_unknown_object :
    (Json.object [("template", .string "a")]).Proper Json.maxDepth ∧
      (Json.object [("x", .object [("p", .null), ("q", .null)]),
        ("template", .string "a")]).Proper Json.maxDepth ∧
      (Json.object [("x", .object [("p", .null), ("q", .null)]), ("template", .string "a")]).known =
        (Json.object [("template", .string "a")]).known ∧
      (Json.object [("x", .object [("p", .null), ("q", .null)]),
        ("template", .string "a")]).Reordered
          (.object [("template", .string "a"), ("x", .object [("q", .null), ("p", .null)])]) ∧
      (Direct.read Direct.readRule (Json.object [("template", .string "a"),
        ("x", .object [("q", .null), ("p", .null)])]).render).toOption =
          some ⟨Template.parse "a", .raw⟩ ∧
      (Json.convert Rule.ofJson (Json.object [("template", .string "a"),
        ("x", .object [("q", .null), ("p", .null)])]).render).toOption =
          some ⟨Template.parse "a", .raw⟩ := by
  have hvalue : (Json.object [("template", .string "a")]).Proper Json.maxDepth :=
    .object (by decide) (by simpa using Json.Proper.string _ "a")
  have hunknown : (Json.object [("p", .null), ("q", .null)]).Proper 126 :=
    .object (by decide) (by simpa using Json.Proper.null _)
  have hother : (Json.object [("x", .object [("p", .null), ("q", .null)]),
      ("template", .string "a")]).Proper Json.maxDepth :=
    .object (by decide) (by simpa using ⟨hunknown, .string 126 "a"⟩)
  have hwritten : (Json.object [("x", .object [("p", .null), ("q", .null)]),
      ("template", .string "a")]).Reordered
        (.object [("template", .string "a"), ("x", .object [("q", .null), ("p", .null)])]) :=
    .trans (.members (.swap _ _ []))
      (.inMember [("template", .string "a")] "x" [] (.members (.swap _ _ [])))
  obtain ⟨hread, hconvert⟩ := read_render_of_reordered hvalue hother rfl hwritten
  have hdirect : (Direct.read Direct.readRule (Json.object
      [("template", .string "a")]).render).toOption = some ⟨Template.parse "a", .raw⟩ :=
    Direct.read_render hvalue
  exact ⟨hvalue, hother, rfl, hwritten, hread.trans hdirect, hconvert.trans hdirect⟩

/-- A number that overflows in an unknown member: the rule is read straight from the text, and by
way of a value it is not. -/
theorem convert_fails_of_unknown_number :
    (Json.object [("template", .string "a"),
        ("x", .number ⟨false, [1], [], some ⟨false, [9, 9, 9]⟩⟩)]).Proper Json.maxDepth ∧
      (Json.object [("template", .string "a"),
        ("x", .number ⟨false, [1], [], some ⟨false, [9, 9, 9]⟩⟩)]).render =
          "\x7b\"template\":\"a\",\"x\":1e999\x7d" ∧
      (Direct.read Direct.readRule "\x7b\"template\":\"a\",\"x\":1e999\x7d").toOption =
        some ⟨Template.parse "a", .raw⟩ ∧
      (Json.convert Rule.ofJson "\x7b\"template\":\"a\",\"x\":1e999\x7d").toOption = none := by
  have hnumber : (Json.Number.mk false [1] [] (some ⟨false, [9, 9, 9]⟩)).WellFormed :=
    ⟨nofun, nofun, by simp⟩
  have hvalue : (Json.object [("template", .string "a"),
      ("x", .number ⟨false, [1], [], some ⟨false, [9, 9, 9]⟩⟩)]).Proper Json.maxDepth :=
    .object (by decide) (by simpa using ⟨.string 126 "a", .number 126 hnumber⟩)
  have hrender : (Json.object [("template", .string "a"),
      ("x", .number ⟨false, [1], [], some ⟨false, [9, 9, 9]⟩⟩)]).render =
        "\x7b\"template\":\"a\",\"x\":1e999\x7d" := rfl
  have hrange : (Json.Number.mk false [1] [] (some ⟨false, [9, 9, 9]⟩)).inRange = false := by
    decide +kernel
  have hread := Direct.read_render hvalue
  have hconvert := Json.toOption_convert_render hvalue
  rw [hrender] at hread hconvert
  refine ⟨hvalue, hrender, hread, hconvert.trans ?_⟩
  simp [Json.inRange, Json.membersInRange, hrange]

end RecordTemplate
