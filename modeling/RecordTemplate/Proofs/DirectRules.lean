import RecordTemplate.Proofs.DirectValues

/-!
Rules read straight from the written form of a JSON value, told from the value alone. The members of
an object are added to a draft one by one (`Direct.readMembers_append`). As no name comes twice,
this leads to the same rule as looking up the known members by their names
(`Direct.Draft.foldlM_add`). A list is read item by item (`Direct.readItems_append`).

So a rule is read straight from the written form of a proper value exactly if the value converts,
whatever numbers it holds (`Direct.read_render`), and by way of a value if, besides, all its numbers
are in range (`Json.toOption_convert_render`).
-/

set_option autoImplicit false
set_option relaxedAutoImplicit false

namespace RecordTemplate

/-! ### Members by name -/

theorem Member.ofName?_eq_some_iff {name : String} {member : Member} :
    ofName? name = some member ↔ name = member.name := by
  constructor
  · intro hname
    have hfound := List.find?_some hname
    exact (eq_of_beq hfound).symm
  · rintro rfl
    exact ofName?_name member

/-- The value of a known name at the front of some members is told by the member that the name
stands for. -/
theorem lookup_name_cons (member : Member) (name : String) (value : Json)
    (members : List (String × Json)) :
    ((name, value) :: members).lookup member.name =
      if Member.ofName? name = some member then some value else members.lookup member.name := by
  rw [List.lookup_cons]
  by_cases hname : name = member.name
  · rw [if_pos (Member.ofName?_eq_some_iff.mpr hname), hname, beq_self_eq_true]
  · rw [if_neg (hname ∘ Member.ofName?_eq_some_iff.mp), beq_false_of_ne (Ne.symm hname)]

theorem lookup_eq_none {name : String} {members : List (String × Json)}
    (hname : name ∉ members.map Prod.fst) : members.lookup name = none :=
  List.lookup_eq_none_iff.mpr fun _ hmember ↦ bne_iff_ne.mpr fun heq ↦
    hname (heq ▸ List.mem_map_of_mem hmember)

/-- As no name comes twice, the order of the members makes no difference to what a name stands
for. -/
theorem lookup_of_perm {members others : List (String × Json)} (hperm : members.Perm others)
    (hnames : (members.map Prod.fst).Nodup) (name : String) :
    members.lookup name = others.lookup name := by
  induction hperm with
  | nil => rfl
  | cons member _ ih =>
    rw [List.map_cons, List.nodup_cons] at hnames
    rw [List.lookup_cons, List.lookup_cons, ih hnames.2]
  | swap first second members =>
    simp only [List.map_cons, List.nodup_cons, List.mem_cons, not_or] at hnames
    rw [List.lookup_cons, List.lookup_cons, List.lookup_cons, List.lookup_cons]
    by_cases hfirst : name = first.1
    · have hsecond : name ≠ second.1 := fun hsecond ↦ hnames.1.1 (hsecond.symm.trans hfirst)
      rw [beq_false_of_ne hsecond]
    · rw [beq_false_of_ne hfirst]
  | trans hfirst _ ihfirst ihsecond =>
    rw [ihfirst hnames, ihsecond ((hfirst.map Prod.fst).nodup hnames)]

theorem Json.member?_eq_lookup {members : List (String × Json)}
    (hnames : (members.map Prod.fst).Nodup) (name : String) :
    member? members name = members.lookup name :=
  (lookup_of_perm (List.reverse_perm members).symm hnames name).symm

namespace Direct

open Json (EndsValue itemsBehind membersBehind)

variable {depth : Nat} {value : Json}

/-! ### Members -/

namespace Draft

/-- A draft with one more member, unless that member is a repetition or of the wrong type. What is
not known changes nothing. -/
def add (draft : Draft) (member : String × Json) : Option Draft :=
  match (Member.ofName? member.1).filter draft.has with
  | some _ => none
  | none =>
    match Member.ofName? member.1 with
    | some .template =>
      (Template.ofJson member.2).toOption.map fun template ↦
        { draft with template? := some template }
    | some .encoding =>
      (Encoding.ofJson member.2).toOption.map fun encoding ↦
        { draft with encoding? := some encoding }
    | none => some draft

/-- A draft with the values of members that it does not have yet. -/
def fill (draft : Draft) (template? encoding? : Option Json) : Option Draft := do
  let template? ← template?.elim (some draft.template?) fun value ↦
    (Template.ofJson value).toOption.map some
  let encoding? ← encoding?.elim (some draft.encoding?) fun value ↦
    (Encoding.ofJson value).toOption.map some
  return ⟨template?, encoding?⟩

end Draft

/-- One member of an object is read as it is added. -/
theorem readMember_append (draft : Draft) (name : String) (hvalue : value.Proper depth)
    (hdepth : depth ≤ Json.maxDepth) {rest : List Char} (hrest : EndsValue rest) :
    (readMember draft (Json.StringLiteral.encode name.toList ++
        ':' :: (value.chars ++ rest))).toOption =
      (draft.add (name, value)).map fun draft ↦ (draft, rest) := by
  have hname := Json.readString_encode_append .keep name (':' :: (value.chars ++ rest))
  have hcolon : ∀ text, readMark ':' (':' :: text) = .ok text := fun _ ↦ rfl
  have htemplate := readTemplate_chars_append hvalue rest
  have hencoding := readEncoding_chars_append hvalue rest
  have hskip := hvalue.read_skip_append hdepth hrest
  rw [readMember, toOption_bind, toOption_mapError, hname, Draft.add]
  show Except.toOption (match (Member.ofName? name).filter draft.has with
    | some _ => _
    | none => _) = _
  cases (Member.ofName? name).filter draft.has with
  | some member => rfl
  | none =>
    show (readMark ':' (':' :: _) >>= _).toOption = _
    rw [hcolon]
    show (readMemberValue draft (Member.ofName? name) _).toOption = _
    match Member.ofName? name with
    | some .template =>
      rw [readMemberValue, toOption_bind, htemplate]
      cases (Template.ofJson value).toOption <;> rfl
    | some .encoding =>
      rw [readMemberValue, toOption_bind, hencoding]
      cases (Encoding.ofJson value).toOption <;> rfl
    | none =>
      rw [readMemberValue, toOption_bind, toOption_mapError, hskip]
      rfl

/-- Behind a member that can be added come the end of the object or the next member. -/
theorem readMembers_cons (draft : Draft) (name : String) (hvalue : value.Proper depth)
    (hdepth : depth ≤ Json.maxDepth) (members : List (String × Json)) (rest : List Char) :
    (readMembers draft (Json.StringLiteral.encode name.toList ++
        ':' :: (value.chars ++ membersBehind members rest))).toOption =
      (draft.add (name, value)).bind fun draft ↦
        match members with
        | [] => some (draft, rest)
        | (next, nextValue) :: members =>
          (readMembers draft (Json.StringLiteral.encode next.toList ++
            ':' :: (nextValue.chars ++ membersBehind members rest))).toOption := by
  have hmember := readMember_append draft name hvalue hdepth
    (Json.endsValue_membersBehind members rest)
  cases hread : readMember draft (Json.StringLiteral.encode name.toList ++
      ':' :: (value.chars ++ membersBehind members rest)) with
  | error error =>
    rw [hread] at hmember
    have hadd : draft.add (name, value) = none := Option.map_eq_none_iff.mp hmember.symm
    rw [readMembers_eq, hread, hadd]
    rfl
  | ok result =>
    rw [hread] at hmember
    obtain ⟨added, hadd, rfl⟩ := Option.map_eq_some_iff.mp hmember.symm
    rw [hadd]
    cases members with
    | nil =>
      rw [readMembers_of_closing hread]
      rfl
    | cons next members =>
      rw [readMembers_of_comma hread]
      rfl

/-- The members of an object are read as they are added one by one. -/
theorem readMembers_append (draft : Draft) {name : String} {members : List (String × Json)}
    (hvalues : ∀ member ∈ (name, value) :: members, member.2.Proper depth)
    (hdepth : depth ≤ Json.maxDepth) (rest : List Char) :
    (readMembers draft (Json.StringLiteral.encode name.toList ++
        ':' :: (value.chars ++ membersBehind members rest))).toOption =
      (((name, value) :: members).foldlM Draft.add draft).map fun draft ↦ (draft, rest) := by
  induction members generalizing draft name value with
  | nil =>
    rw [readMembers_cons draft name (hvalues _ List.mem_cons_self) hdepth, List.foldlM_cons]
    cases draft.add (name, value) <;> rfl
  | cons next members ih =>
    have hothers (draft : Draft) := @ih next.2 draft next.1
      fun member hmember ↦ hvalues member (List.mem_cons_of_mem _ hmember)
    rw [readMembers_cons draft name (hvalues _ List.mem_cons_self) hdepth, List.foldlM_cons]
    cases draft.add (name, value) with
    | none => rfl
    | some added => exact hothers added

/-! ### Objects -/

/-- As no name comes twice, adding the members one by one comes to the same as looking up those
that are known. -/
theorem Draft.foldlM_add {draft : Draft} {members : List (String × Json)}
    (hnames : (members.map Prod.fst).Nodup)
    (hnew : ∀ member : Member, draft.has member → member.name ∉ members.map Prod.fst) :
    members.foldlM Draft.add draft =
      draft.fill (members.lookup Member.template.name) (members.lookup Member.encoding.name) := by
  induction members generalizing draft with
  | nil => rfl
  | cons member members ih =>
    obtain ⟨name, value⟩ := member
    rw [List.map_cons, List.nodup_cons] at hnames
    obtain ⟨hname, hnames⟩ := hnames
    have hfirst : (Member.ofName? name).filter draft.has = none := by
      rw [Option.filter_eq_none_iff]
      intro member hmember hhas
      rw [Member.ofName?_eq_some_iff] at hmember
      exact hnew member hhas (hmember ▸ List.mem_cons_self)
    -- What is added now cannot come again, so the rest is told by the induction hypothesis.
    have hothers {added : Draft}
        (hadded : ∀ member : Member, added.has member → draft.has member ∨ name = member.name) :
        members.foldlM Draft.add added =
          added.fill (members.lookup Member.template.name)
            (members.lookup Member.encoding.name) := by
      refine ih hnames fun member hhas hmember ↦ ?_
      obtain hhas | rfl := hadded member hhas
      · exact hnew member hhas (List.mem_cons_of_mem name hmember)
      · exact hname hmember
    have hlookup := lookup_eq_none hname
    rw [List.foldlM_cons, Draft.add, hfirst, lookup_name_cons, lookup_name_cons]
    match hmember : Member.ofName? name with
    | none =>
      rw [if_neg nofun, if_neg nofun]
      exact hothers fun _ ↦ .inl
    | some .template =>
      obtain rfl := Member.ofName?_eq_some_iff.mp hmember
      rw [if_pos rfl, if_neg nofun]
      cases htemplate : (Template.ofJson value).toOption with
      | none => simp [Draft.fill, htemplate]
      | some template =>
        have hadded := @hothers { draft with template? := some template } fun
          | .template, _ => .inr rfl
          | .encoding, hhas => .inl hhas
        rw [hlookup] at hadded
        exact hadded.trans (by simp [Draft.fill, htemplate])
    | some .encoding =>
      obtain rfl := Member.ofName?_eq_some_iff.mp hmember
      rw [if_neg nofun, if_pos rfl]
      cases hencoding : (Encoding.ofJson value).toOption with
      | none => simp [Draft.fill, hencoding]
      | some encoding =>
        have hadded := @hothers { draft with encoding? := some encoding } fun
          | .template, hhas => .inl hhas
          | .encoding, _ => .inr rfl
        rw [hlookup] at hadded
        exact hadded.trans (by simp [Draft.fill, hencoding])

/-- By way of a value the encoding is looked at first, and in a draft the template is. -/
theorem Draft.toOption_ofMembers (template? encoding? : Option Json) :
    (Rule.ofMembers template? encoding?).toOption =
      (empty.fill template? encoding?).bind fun draft ↦ draft.toRule.toOption := by
  have htemplate (encoding : Encoding) (template : Json) :
      (Template.ofJson template >>= fun template ↦
        (pure ⟨template, encoding⟩ : Except Mismatch Rule)).toOption =
          (Template.ofJson template).toOption.map fun template ↦ ⟨template, encoding⟩ := by
    cases Template.ofJson template <;> rfl
  cases encoding? with
  | none =>
    cases template? with
    | none => rfl
    | some template =>
      show (Template.ofJson template >>= _).toOption = _
      simp only [htemplate, fill, Option.elim_some]
      cases (Template.ofJson template).toOption <;> rfl
  | some encoding =>
    show (Encoding.ofJson encoding >>= _).toOption = _
    simp only [toOption_bind, fill, Option.elim_some]
    cases template? with
    | none => cases (Encoding.ofJson encoding).toOption <;> rfl
    | some template =>
      simp only [htemplate, Option.elim_some]
      cases (Encoding.ofJson encoding).toOption <;>
        cases (Template.ofJson template).toOption <;> rfl

/-- A rule is read from the members of an object if these convert. -/
theorem readRule_object_append {members : List (String × Json)}
    (hnames : (members.map Prod.fst).Nodup) (hvalues : ∀ member ∈ members, member.2.Proper depth)
    (hdepth : depth ≤ Json.maxDepth) (rest : List Char) :
    (readRule ((Json.object members).chars ++ rest)).toOption =
      (Rule.ofJson (.object members)).toOption.map fun rule ↦ (rule, rest) := by
  have hnew : ∀ member : Member, Draft.empty.has member → member.name ∉ members.map Prod.fst := by
    rintro (_ | _) hhas <;> contradiction
  rw [Rule.ofJson, Json.member?_eq_lookup hnames, Json.member?_eq_lookup hnames,
    Draft.toOption_ofMembers, ← Draft.foldlM_add hnames hnew]
  cases members with
  | nil => rfl
  | cons member members =>
    obtain ⟨name, value⟩ := member
    have hmembers := readMembers_append .empty hvalues hdepth rest
    rw [Json.StringLiteral.encode_append] at hmembers
    rw [Json.chars_object_append, Json.StringLiteral.encode_append]
    show (readMembers .empty ('"' :: _) >>= _).toOption = _
    rw [toOption_bind, hmembers]
    cases ((name, value) :: members).foldlM Draft.add Draft.empty with
    | none => rfl
    | some draft =>
      show (draft.toRule >>= _).toOption = draft.toRule.toOption.map _
      rw [toOption_bind]
      cases draft.toRule.toOption <;> rfl

/-! ### Lists -/

/-- A rule is read from the items of a list if these convert. -/
theorem readItems_append {item : Json} {items : List Json}
    (hitems : ∀ other ∈ item :: items, other.Proper depth) (rest : List Char) :
    (readItems (item.chars ++ itemsBehind items rest)).toOption =
      (Rule.ofItems (item :: items)).toOption.map fun rule ↦ (rule, rest) := by
  have htemplate := readTemplate_chars_append (hitems item List.mem_cons_self)
    (itemsBehind items rest)
  rw [readItems, Rule.ofItems, toOption_bind, toOption_bind, htemplate]
  cases (Template.ofJson item).toOption with
  | none => rfl
  | some template =>
    cases items with
    | nil => rfl
    | cons next items =>
      have hencoding := readEncoding_chars_append
        (hitems next (List.mem_cons_of_mem item List.mem_cons_self)) (itemsBehind items rest)
      show (readEncoding (next.chars ++ itemsBehind items rest) >>= _).toOption = _
      rw [toOption_bind, hencoding]
      simp only [List.head?_cons, Option.elim_some, Option.bind_some, toOption_bind]
      cases (Encoding.ofJson next).toOption with
      | none => rfl
      | some encoding =>
        cases items with
        | nil => rfl
        | cons => rfl

/-! ### Rules -/

theorem readRule_append (hvalue : value.Proper depth) (hdepth : depth ≤ Json.maxDepth)
    (rest : List Char) :
    (readRule (value.chars ++ rest)).toOption =
      (Rule.ofJson value).toOption.map fun rule ↦ (rule, rest) := by
  obtain ⟨c, tail, hchars, hblank, -, hshape⟩ := hvalue.exists_head
  have hneither (harray : value.shape ≠ .array) (hobject : value.shape ≠ .object) :
      (readRule (value.chars ++ rest)).toOption = none := by
    rw [hchars, List.cons_append, readRule, Json.skipBlanks_cons hblank]
    split
    · next heq =>
      obtain rfl := (List.cons.inj heq).1
      exact absurd hshape.symm hobject
    · next heq =>
      obtain rfl := (List.cons.inj heq).1
      exact absurd hshape.symm harray
    · rfl
  cases hvalue with
  | @array _ items hitems =>
    cases items with
    | nil => rfl
    | cons item items =>
      obtain ⟨c, tail, hchars, hblank, hbracket, -⟩ := (hitems item List.mem_cons_self).exists_head
      have hread := readItems_append hitems rest
      rw [hchars, List.cons_append] at hread
      have hopen : readRule ('[' :: c :: (tail ++ itemsBehind items rest)) =
          readItems (c :: (tail ++ itemsBehind items rest)) := by
        rw [readRule, Json.skipBlanks_cons (by decide)]
        simp only [Json.skipBlanks_cons hblank]
        split
        · next heq => exact absurd (List.cons.inj heq).1 hbracket
        · rfl
      rw [Json.chars_array_append, hchars, List.cons_append, hopen, hread, Rule.ofJson]
  | @object _ _ hnames hvalues =>
    exact readRule_object_append hnames hvalues (Nat.le_of_succ_le hdepth) rest
  | _ => exact hneither (by simp [Json.shape]) (by simp [Json.shape])

/-- A rule is read straight from the written form of a proper value if the value converts. -/
theorem read_render (hvalue : value.Proper Json.maxDepth) :
    (read readRule value.render).toOption = (Rule.ofJson value).toOption := by
  have hread := readRule_append hvalue (Nat.le_refl _) []
  rw [List.append_nil] at hread
  rw [read, toOption_bind, Json.render, String.toList_ofList, hread]
  cases (Rule.ofJson value).toOption <;> rfl

end Direct

/-- By way of a value a rule is read from the written form of a proper value if, besides, all its
numbers are in range. -/
theorem Json.toOption_convert_render {value : Json} (hvalue : value.Proper maxDepth) :
    (convert Rule.ofJson value.render).toOption =
      if value.inRange then (Rule.ofJson value).toOption else none := by
  rw [convert, toOption_bind, toOption_mapError, hvalue.parse_render]
  cases value.inRange with
  | false => rfl
  | true => exact toOption_mapError _ _

end RecordTemplate
