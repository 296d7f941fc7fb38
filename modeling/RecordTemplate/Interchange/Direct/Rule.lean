import RecordTemplate.Interchange.Direct.Value

/-!
Reading rules straight from JSON text. The members of an object may come in any order, those that
are not known are passed over, and none of the known ones may come twice.
-/

set_option autoImplicit false
set_option relaxedAutoImplicit false

namespace RecordTemplate.Direct

open Json (skipBlanks)

/-! ### Members -/

/-- The members of a rule that have been read. -/
structure Draft where
  template? : Option Template
  encoding? : Option Encoding
  deriving DecidableEq, Repr

namespace Draft

def empty : Draft := ⟨none, none⟩

def has (draft : Draft) : Member → Bool
  | .template => draft.template?.isSome
  | .encoding => draft.encoding?.isSome

def toRule (draft : Draft) : Except ReadError Rule :=
  match draft.template? with
  | none => .error (.mismatch .noTemplate)
  | some template => .ok ⟨template, draft.encoding?.getD .raw⟩

end Draft

/-- The value of a member. -/
def readMemberValue (draft : Draft) (member? : Option Member) (text : List Char) :
    Except ReadError (Draft × List Char) :=
  match member? with
  | some .template => do
    let (template, rest) ← readTemplate text
    return ({ draft with template? := some template }, rest)
  | some .encoding => do
    let (encoding, rest) ← readEncoding text
    return ({ draft with encoding? := some encoding }, rest)
  | none => do
    let (_, rest) ← (Json.read .skip text).mapError .fault
    return (draft, rest)

/-- One member of an object, its name included. That it is a repetition is found out before its
value is read. -/
def readMember (draft : Draft) (text : List Char) : Except ReadError (Draft × List Char) := do
  let (name, rest) ← (Json.readString .keep text).mapError .fault
  let member? := Member.ofName? name
  match member?.filter draft.has with
  | some member => .error (.mismatch (.repeated member))
  | none => do
    let rest ← readMark ':' rest
    readMemberValue draft member? rest

theorem readMemberValue_length {draft draft' : Draft} {member? : Option Member}
    {text rest : List Char} (hread : readMemberValue draft member? text = .ok (draft', rest)) :
    rest.length < text.length := by
  unfold readMemberValue at hread
  split at hread
  · obtain ⟨⟨template, tail⟩, htemplate, hrest⟩ := bind_eq_ok.mp hread
    simp only [pure, Except.pure, Except.ok.injEq, Prod.mk.injEq] at hrest
    exact hrest.2 ▸ readTemplate_length htemplate
  · obtain ⟨⟨encoding, tail⟩, hencoding, hrest⟩ := bind_eq_ok.mp hread
    simp only [pure, Except.pure, Except.ok.injEq, Prod.mk.injEq] at hrest
    exact hrest.2 ▸ readEncoding_length hencoding
  · obtain ⟨⟨value, tail⟩, hvalue, hrest⟩ := bind_eq_ok.mp hread
    simp only [pure, Except.pure, Except.ok.injEq, Prod.mk.injEq] at hrest
    exact hrest.2 ▸ Json.readValue_length (mapError_eq_ok.mp hvalue)

theorem readMember_length {draft draft' : Draft} {text rest : List Char}
    (hread : readMember draft text = .ok (draft', rest)) : rest.length < text.length := by
  obtain ⟨⟨name, afterName⟩, hname, hread⟩ := bind_eq_ok.mp hread
  have hname := Json.readString_length (mapError_eq_ok.mp hname)
  dsimp only at hread
  split at hread
  · contradiction
  · obtain ⟨afterColon, hcolon, hvalue⟩ := bind_eq_ok.mp hread
    exact Nat.lt_trans (readMemberValue_length hvalue)
      (Nat.lt_trans (readMark_length hcolon) hname)

/-- The members of an object up to its end. -/
def readMembers (draft : Draft) (text : List Char) : Except ReadError (Draft × List Char) :=
  match hmember : readMember draft text with
  | .error error => .error error
  | .ok (draft, rest) =>
    match hrest : skipBlanks rest with
    | '}' :: after => .ok (draft, after)
    | ',' :: after =>
      have : after.length < text.length :=
        Nat.lt_trans (Json.length_lt_of_skipBlanks hrest) (readMember_length hmember)
      readMembers draft after
    | rest => .error (.fault (.ofRest rest))
termination_by text.length

/-! ### Rules -/

/-- The rule of a list. Its end has to come behind the encoding, or behind the template if there is
no encoding. -/
def readItems (text : List Char) : Except ReadError (Rule × List Char) := do
  let (template, rest) ← readTemplate text
  let (encoding, rest) ←
    match skipBlanks rest with
    | ',' :: rest => readEncoding rest
    | _ => pure (.raw, rest)
  let rest ← readMark ']' rest
  return (⟨template, encoding⟩, rest)

def readRule (text : List Char) : Except ReadError (Rule × List Char) :=
  match skipBlanks text with
  | '{' :: rest => do
    let (draft, rest) ←
      match skipBlanks rest with
      | '}' :: rest => pure (Draft.empty, rest)
      | _ => readMembers .empty rest
    return (← draft.toRule, rest)
  | '[' :: rest =>
    match skipBlanks rest with
    | ']' :: _ => .error (.mismatch .emptySequence)
    | _ => readItems rest
  | start => .error (wrongType .rule start)

/-! ### Whole texts -/

/-- What a text consists of, but for blanks around it. -/
def read {α : Type} (reader : List Char → Except ReadError (α × List Char)) (text : String) :
    Except ReadError α := do
  let (value, rest) ← reader text.toList
  (Json.finish value rest).mapError .fault

end RecordTemplate.Direct
