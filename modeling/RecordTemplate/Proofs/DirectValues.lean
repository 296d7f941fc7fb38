import RecordTemplate.Proofs.JsonValues

/-!
Templates and encodings read straight from the written form of a JSON value, told from the value
alone. They are read exactly if the value converts, and then with the same result
(`Direct.readTemplate_chars_append`, `Direct.readEncoding_chars_append`). Reading straight from the
text stops at the first thing that is wrong, and conversion looks at the parts of a value in another
order, so the two are compared by their results and not by their errors.
-/

set_option autoImplicit false
set_option relaxedAutoImplicit false

namespace RecordTemplate

/-! ### Results -/

section

variable {ε α β : Type}

theorem toOption_bind (result : Except ε α) (next : α → Except ε β) :
    (result >>= next).toOption = result.toOption.bind fun value ↦ (next value).toOption := by
  cases result <;> rfl

theorem toOption_mapError {ε' : Type} (f : ε → ε') (result : Except ε α) :
    (result.mapError f).toOption = result.toOption := by
  cases result <;> rfl

theorem toOption_pure (value : α) : (pure value : Except ε α).toOption = some value := rfl

end

/-! ### Encodings of objects -/

/-- An object with a name stands for an encoding if it has no other name, and no value. -/
theorem Encoding.toOption_ofJson_object {name : String} {value : Json}
    {members : List (String × Json)}
    (hnames : (((name, value) :: members).map Prod.fst).Nodup) :
    (Encoding.ofJson (.object ((name, value) :: members))).toOption =
      if members.isEmpty ∧ value.shape = .null then (named name).toOption else none := by
  cases members with
  | nil =>
    have hmember : Json.member? [(name, value)] name = some value := by
      simp [Json.member?]
    simp only [ofJson, Json.onlyName?, List.all_nil, if_true, hmember, toOption_bind]
    cases value <;> cases (named name) <;> rfl
  | cons other members =>
    have hother : (other.1 == name) = false := by
      simp only [List.map_cons, List.nodup_cons, List.mem_cons, not_or] at hnames
      exact beq_false_of_ne (Ne.symm hnames.1.1)
    simp only [ofJson, Json.onlyName?, List.all_cons, hother, Bool.false_and]
    rw [if_neg (by simp)]
    rfl

namespace Direct

open Json (Proper membersBehind)

variable {depth : Nat} {value : Json}

/-! ### Templates -/

theorem readString_of_ne {expected : Expectation} {c : Char} (hblank : ¬ Json.isBlank c)
    (hquote : c ≠ '"') (text : List Char) :
    readString expected (c :: text) = .error (wrongType expected (c :: text)) := by
  rw [readString, Json.skipBlanks_cons hblank]
  split
  · next heq => exact absurd (List.cons.inj heq).1 hquote
  · rfl

/-- A template is read from a proper value if the value is a string. -/
theorem readTemplate_chars_append (hvalue : value.Proper depth) (rest : List Char) :
    (readTemplate (value.chars ++ rest)).toOption =
      (Template.ofJson value).toOption.map fun template ↦ (template, rest) := by
  by_cases hstring : value.shape = .string
  · obtain ⟨source, rfl⟩ := Json.exists_string_of_shape hstring
    rw [Json.chars, readTemplate_encode_append]
    rfl
  · obtain ⟨c, tail, hchars, hblank, -, hshape⟩ := hvalue.exists_head
    have hquote : c ≠ '"' := by
      rintro rfl
      exact hstring hshape.symm
    have hnone : (Template.ofJson value).toOption = none := by
      cases value <;> first | rfl | exact absurd rfl hstring
    rw [hchars, List.cons_append, readTemplate, readString_of_ne hblank hquote, hnone]
    rfl

/-! ### Encodings -/

/-- Only the value without content is read as such. -/
theorem readNull_chars_append {expected : Expectation} (hvalue : value.Proper depth)
    (rest : List Char) :
    (readNull expected (value.chars ++ rest)).toOption =
      if value.shape = .null then some rest else none := by
  by_cases hnull : value.shape = .null
  · rw [if_pos hnull, Json.shape_eq_null_iff.mp hnull]
    rfl
  · obtain ⟨c, tail, hchars, hblank, -, hshape⟩ := hvalue.exists_head
    have hn : c ≠ 'n' := by
      rintro rfl
      exact hnull hshape.symm
    rw [hchars, List.cons_append, readNull, Json.skipBlanks_cons hblank, if_neg hnull]
    split
    · next heq => exact absurd (List.cons.inj heq).1 hn
    · rfl

theorem readEncodingName_encode_append (name : String) (rest : List Char) :
    (readEncodingName (Json.StringLiteral.encode name.toList ++ rest)).toOption =
      (Encoding.named name).toOption.map fun encoding ↦ (encoding, rest) := by
  rw [readEncodingName, toOption_bind, toOption_mapError, Json.readString_encode_append]
  show (((Encoding.named name).mapError ReadError.mismatch) >>= _).toOption = _
  rw [toOption_bind, toOption_mapError]
  cases Encoding.named name <;> rfl

/-- Only the last name of an object is followed by its end. -/
theorem readMark_membersBehind (members : List (String × Json)) (rest : List Char) :
    (readMark '}' (membersBehind members rest)).toOption =
      if members.isEmpty then some rest else none := by
  cases members <;> rfl

/-- The encoding of an object is read up to the end of the object, which has to come behind its
first member. -/
theorem readEncoding_object_append {name : String} {members : List (String × Json)}
    (hnames : (((name, value) :: members).map Prod.fst).Nodup) (hvalue : value.Proper depth)
    (rest : List Char) :
    (readEncoding ((Json.object ((name, value) :: members)).chars ++ rest)).toOption =
      (Encoding.ofJson (.object ((name, value) :: members))).toOption.map
        fun encoding ↦ (encoding, rest) := by
  have hcolon : ∀ text, readMark ':' (':' :: text) = .ok text := fun _ ↦ rfl
  have hnull := @readNull_chars_append _ _ .unit hvalue (membersBehind members rest)
  have hclosing := readMark_membersBehind members rest
  rw [Json.chars_object_append, Encoding.toOption_ofJson_object hnames]
  show (readEncodingName _ >>= _).toOption = _
  rw [toOption_bind, readEncodingName_encode_append]
  cases (Encoding.named name).toOption with
  | none => simp
  | some encoding =>
    show (readMark ':' (':' :: _) >>= _).toOption = _
    rw [hcolon]
    show (readNull .unit _ >>= _).toOption = _
    rw [toOption_bind, hnull]
    by_cases hshape : value.shape = .null
    · rw [if_pos hshape]
      show (readMark '}' _ >>= _).toOption = _
      rw [toOption_bind, hclosing]
      cases members <;> simp [hshape, toOption_pure]
    · simp [hshape]

/-- An encoding is read from a proper value if the value converts. -/
theorem readEncoding_chars_append (hvalue : value.Proper depth) (rest : List Char) :
    (readEncoding (value.chars ++ rest)).toOption =
      (Encoding.ofJson value).toOption.map fun encoding ↦ (encoding, rest) := by
  obtain ⟨c, tail, hchars, hblank, -, hshape⟩ := hvalue.exists_head
  have hneither (hstring : value.shape ≠ .string) (hobject : value.shape ≠ .object) :
      (readEncoding (value.chars ++ rest)).toOption = none := by
    rw [hchars, List.cons_append, readEncoding, Json.skipBlanks_cons hblank]
    split
    · next heq =>
      obtain rfl := (List.cons.inj heq).1
      exact absurd hshape.symm hstring
    · next heq =>
      obtain rfl := (List.cons.inj heq).1
      exact absurd hshape.symm hobject
    · rfl
  cases hvalue with
  | string _ name =>
    have hname := readEncodingName_encode_append name rest
    rw [Json.StringLiteral.encode_append] at hname
    rw [Json.chars, Json.StringLiteral.encode_append]
    exact hname
  | @object _ members hnames hvalues =>
    cases members with
    | nil => rfl
    | cons member members =>
      exact readEncoding_object_append hnames (hvalues member List.mem_cons_self) rest
  | _ => exact hneither (by simp [Json.shape]) (by simp [Json.shape])

end Direct

end RecordTemplate
