import RecordTemplate.Proofs.Exchange
import RecordTemplate.Proofs.JsonNumbers

/-!
JSON values written and read again. A value that JSON allows (`Json.Proper`) is written as a text
that is read back to the value, whatever containers stand open around it: by induction on the value,
with one lemma for the items of an array that are still to come (`Json.readValue_items`) and one for
the members of an object (`Json.readValue_members`). The one thing that can go wrong is a number
whose significand, rounded to a floating-point number, overflows when it is scaled by the power of
ten (`Json.inRange`). It makes the reading fail if the value is kept, and does no harm if it is
passed over (`Json.Proper.readsBack`).

So a proper text is parsed exactly if all its numbers are in range (`Json.parse_render`), and is
always passed over as a whole (`Json.read_skip_append`).
-/

set_option autoImplicit false
set_option relaxedAutoImplicit false

namespace RecordTemplate.Json

/-! ### Proper values -/

/-- What JSON asks of a value: numbers as it allows them, no name twice in an object, and no more
than a given depth of containers. -/
inductive Proper : Nat → Json → Prop
  | null (depth : Nat) : Proper depth null
  | bool (depth : Nat) (value : Bool) : Proper depth (bool value)
  | number (depth : Nat) {written : Number} (hwritten : written.WellFormed) :
    Proper depth (number written)
  | string (depth : Nat) (value : String) : Proper depth (string value)
  | array {depth : Nat} {items : List Json} (hitems : ∀ item ∈ items, Proper depth item) :
    Proper (depth + 1) (array items)
  | object {depth : Nat} {members : List (String × Json)}
    (hnames : (members.map Prod.fst).Nodup) (hvalues : ∀ member ∈ members, Proper depth member.2) :
    Proper (depth + 1) (object members)

mutual

/-- Whether no number in a value overflows when its significand, rounded to a floating-point number,
is scaled by the power of ten. -/
def inRange : Json → Bool
  | number written => written.inRange
  | array items => itemsInRange items
  | object members => membersInRange members
  | _ => true

def itemsInRange : List Json → Bool
  | [] => true
  | item :: items => item.inRange && itemsInRange items

def membersInRange : List (String × Json) → Bool
  | [] => true
  | (_, value) :: members => value.inRange && membersInRange members

end

theorem itemsInRange_eq_all (items : List Json) : itemsInRange items = items.all inRange := by
  induction items with
  | nil => rfl
  | cons item items ih => rw [itemsInRange, ih, List.all_cons]

theorem membersInRange_eq_all (members : List (String × Json)) :
    membersInRange members = members.all fun member ↦ member.2.inRange := by
  induction members with
  | nil => rfl
  | cons member members ih => rw [membersInRange, ih, List.all_cons]

/-! ### Written form -/

/-- The text behind an item of an array, up to the end of the array and on. -/
def itemsBehind : List Json → List Char → List Char
  | [], rest => ']' :: rest
  | item :: items, rest => ',' :: (item.chars ++ itemsBehind items rest)

/-- The text behind a member of an object, up to the end of the object and on. -/
def membersBehind : List (String × Json) → List Char → List Char
  | [], rest => '}' :: rest
  | (name, value) :: members, rest =>
    ',' :: (StringLiteral.encode name.toList ++ ':' :: (value.chars ++ membersBehind members rest))

theorem chars_array_append (item : Json) (items : List Json) (rest : List Char) :
    (array (item :: items)).chars ++ rest = '[' :: (item.chars ++ itemsBehind items rest) := by
  have hitems : ((itemChars (item :: items)).intersperse [',']).flatten ++ ']' :: rest =
      item.chars ++ itemsBehind items rest := by
    induction items generalizing item with
    | nil => simp [itemChars, itemsBehind]
    | cons next items ih =>
      have hnext := ih next
      rw [itemChars] at hnext
      rw [itemChars, itemChars, List.intersperse_cons_cons]
      simp [itemsBehind, hnext]
  rw [chars, List.append_assoc]
  exact congrArg ('[' :: ·) hitems

theorem chars_object_append (name : String) (value : Json) (members : List (String × Json))
    (rest : List Char) :
    (object ((name, value) :: members)).chars ++ rest =
      '{' :: (StringLiteral.encode name.toList ++
        ':' :: (value.chars ++ membersBehind members rest)) := by
  have hmembers : ((memberChars ((name, value) :: members)).intersperse [',']).flatten ++
      '}' :: rest =
        StringLiteral.encode name.toList ++ ':' :: (value.chars ++ membersBehind members rest) := by
    induction members generalizing name value with
    | nil => simp [memberChars, membersBehind]
    | cons next members ih =>
      have hnext := ih next.1 next.2
      rw [memberChars] at hnext
      rw [memberChars, memberChars, List.intersperse_cons_cons]
      simp [membersBehind, hnext]
  rw [chars, List.append_assoc]
  exact congrArg ('{' :: ·) hmembers

/-! ### First characters -/

/-- What can be told of a value from its first character. -/
inductive Shape
  | null
  | bool
  | number
  | string
  | array
  | object
  deriving DecidableEq

def shape : Json → Shape
  | null => .null
  | bool _ => .bool
  | number _ => .number
  | string _ => .string
  | array _ => .array
  | object _ => .object

theorem shape_eq_null_iff {value : Json} : value.shape = .null ↔ value = null := by
  cases value <;> simp [shape]

theorem exists_string_of_shape {value : Json} (hshape : value.shape = .string) :
    ∃ text, value = string text := by
  cases value <;> first | exact ⟨_, rfl⟩ | contradiction

/-- The shape of a value that starts with a character. -/
def Shape.ofChar (c : Char) : Shape :=
  if c = 'n' then .null
  else if c = 't' ∨ c = 'f' then .bool
  else if c = '"' then .string
  else if c = '[' then .array
  else if c = '{' then .object
  else .number

/-- A character that a value of some shape may start with. -/
def Shape.Head (shape : Shape) (c : Char) : Prop :=
  ¬ isBlank c ∧ c ≠ ']' ∧ ofChar c = shape

instance (shape : Shape) (c : Char) : Decidable (shape.Head c) :=
  inferInstanceAs (Decidable (_ ∧ _))

theorem Number.WellFormed.exists_head {written : Number} (hwritten : written.WellFormed) :
    ∃ c tail, written.chars = c :: tail ∧ Shape.number.Head c ∧
      (c = '-' ∨ (Digit.ofChar? c).isSome) := by
  have hdigit : ∀ digit : Digit, Shape.number.Head digit.char ∧
      (digit.char = '-' ∨ (Digit.ofChar? digit.char).isSome) := by
    decide
  obtain ⟨first, others, hwhole⟩ := List.exists_cons_of_ne_nil hwritten.whole_ne_nil
  rw [Number.chars_eq, hwhole]
  cases written.negative with
  | true => exact ⟨_, _, rfl, by decide, .inl rfl⟩
  | false => exact ⟨_, _, rfl, hdigit first⟩

theorem Proper.exists_head {depth : Nat} {value : Json} (hvalue : value.Proper depth) :
    ∃ c tail, value.chars = c :: tail ∧ value.shape.Head c := by
  have hnull : Shape.null.Head 'n' := by decide
  have hstring : Shape.string.Head '"' := by decide
  have harray : Shape.array.Head '[' := by decide
  have hobject : Shape.object.Head '{' := by decide
  cases hvalue with
  | null => exact ⟨_, _, rfl, hnull⟩
  | bool _ value => cases value <;> exact ⟨_, _, rfl, by decide⟩
  | number _ hwritten =>
    obtain ⟨c, tail, hchars, hhead, -⟩ := hwritten.exists_head
    exact ⟨c, tail, hchars, hhead⟩
  | string => exact ⟨_, _, rfl, hstring⟩
  | array => exact ⟨_, _, rfl, harray⟩
  | object => exact ⟨_, _, rfl, hobject⟩

/-! ### What follows a value -/

/-- A text as it goes on behind a value: it ends, or a comma or a closing bracket comes next. -/
def EndsValue (rest : List Char) : Prop :=
  ∀ c, rest.head? = some c → c = ',' ∨ c = ']' ∨ c = '}'

theorem EndsValue.ends {rest : List Char} (hrest : EndsValue rest) : Number.Ends rest := by
  have hhead : ∀ c, rest.head? = some c →
      Digit.ofChar? c = none ∧ c ≠ '.' ∧ c ≠ 'e' ∧ c ≠ 'E' := by
    intro c hc
    obtain rfl | rfl | rfl := hrest c hc <;> decide
  exact ⟨fun c hc ↦ (hhead c hc).1, fun hc ↦ (hhead _ hc).2.1 rfl,
    fun hc ↦ (hhead _ hc).2.2.1 rfl, fun hc ↦ (hhead _ hc).2.2.2 rfl⟩

theorem endsValue_nil : EndsValue [] := nofun

theorem endsValue_itemsBehind (items : List Json) (rest : List Char) :
    EndsValue (itemsBehind items rest) := by
  intro c hc
  cases items with
  | nil => exact .inr (.inl (Option.some.inj hc).symm)
  | cons item items => exact .inl (Option.some.inj hc).symm

theorem endsValue_membersBehind (members : List (String × Json)) (rest : List Char) :
    EndsValue (membersBehind members rest) := by
  intro c hc
  cases members with
  | nil => exact .inr (.inr (Option.some.inj hc).symm)
  | cons member members => exact .inl (Option.some.inj hc).symm

/-! ### Starts of values -/

section

variable {purpose : Purpose} {stack : List Frame} {rest : List Char}

/-- A number is taken off a text if it is passed over, or else in range. -/
theorem readStart_number {written : Number} (hwritten : written.WellFormed)
    (hrest : EndsValue rest) :
    readStart purpose stack (written.chars ++ rest) =
      if purpose = .skip ∨ written.inRange then .ok (.value (number written), rest)
      else .error .malformed := by
  obtain ⟨c, tail, hchars, ⟨hblank, -, hshape⟩, hnumber⟩ := hwritten.exists_head
  have hread := @Number.read_chars_append purpose _ _ hwritten hrest.ends
  have hother : ∀ other, Shape.ofChar other ≠ .number → c ≠ other := by
    rintro other hother rfl
    exact hother hshape
  rw [hchars, List.cons_append] at hread ⊢
  have hatom : readAtom purpose (c :: (tail ++ rest)) =
      if purpose = .skip ∨ written.inRange then .ok (number written, rest)
      else .error .malformed := by
    unfold readAtom
    split
    · contradiction
    · next heq => exact absurd (List.cons.inj heq).1 (hother 'n' (by decide))
    · next heq => exact absurd (List.cons.inj heq).1 (hother 't' (by decide))
    · next heq => exact absurd (List.cons.inj heq).1 (hother 'f' (by decide))
    · next heq => exact absurd (List.cons.inj heq).1 (hother '"' (by decide))
    · next heq =>
      obtain ⟨rfl, rfl⟩ := List.cons.inj heq
      rw [if_pos hnumber, hread]
  unfold readStart
  rw [skipBlanks_cons hblank]
  split
  · next heq => exact absurd (List.cons.inj heq).1 (hother '[' (by decide))
  · next heq => exact absurd (List.cons.inj heq).1 (hother '{' (by decide))
  · rw [hatom]
    split <;> rfl

/-- A value behind an opening bracket opens an array. -/
theorem readStart_array (hopen : mayOpen purpose stack = true) {depth : Nat} {item : Json}
    (hitem : item.Proper depth) (rest : List Char) :
    readStart purpose stack ('[' :: (item.chars ++ rest)) =
      .ok (.opened (.array []), item.chars ++ rest) := by
  obtain ⟨c, tail, hchars, hblank, hbracket, -⟩ := hitem.exists_head
  rw [hchars, List.cons_append, readStart, skipBlanks_cons (by decide)]
  simp only [hopen, if_true, skipBlanks_cons hblank]
  split
  · next heq => exact absurd (List.cons.inj heq).1 hbracket
  · rfl

end

/-! ### Reading back -/

/-- How the reading goes on behind a finished value. -/
def readBehind (purpose : Purpose) (stack : List Frame) (value : Json) (text : List Char) :
    Except Fault (Json × List Char) :=
  match resume purpose stack value text with
  | .error fault => .error fault
  | .ok (.finished value, after) => .ok (value, after)
  | .ok (.unfinished stack, after) => readValue purpose stack after

/-- A value that is taken off a text for a purpose, within containers that leave room for it, unless
it is kept and not in range. -/
def ReadsBack (purpose : Purpose) (depth : Nat) (value : Json) : Prop :=
  ∀ stack rest, stack.length + depth ≤ maxDepth → EndsValue rest →
    readValue purpose stack (value.chars ++ rest) =
      if purpose = .skip ∨ value.inRange then readBehind purpose stack value rest
      else .error .malformed

variable {purpose : Purpose} {depth : Nat} {stack : List Frame}

theorem readValue_of_readStart {text rest : List Char} {value : Json}
    (hstart : readStart purpose stack text = .ok (.value value, rest)) :
    readValue purpose stack text = readBehind purpose stack value rest := by
  rw [readValue_eq, hstart]
  rfl

theorem ReadsBack.of_readStart {value : Json} (hrange : value.inRange = true)
    (hstart : ∀ stack rest, stack.length + depth ≤ maxDepth →
      readStart purpose stack (value.chars ++ rest) = .ok (.value value, rest)) :
    ReadsBack purpose depth value := by
  intro stack rest hdepth _
  rw [readValue_of_readStart (hstart stack rest hdepth), if_pos (.inr hrange)]

/-- Of two values both have to be in range. -/
theorem ite_inRange {α : Type} (first second : Bool) (result failure : α) :
    (if purpose = .skip ∨ first then if purpose = .skip ∨ second then result else failure
      else failure) = if purpose = .skip ∨ (first && second) then result else failure := by
  cases first <;> cases second <;> cases purpose <;> rfl

/-- The items of an array, from one of them on. -/
theorem readValue_items {item : Json} {items : List Json}
    (hitems : ∀ other ∈ item :: items, ReadsBack purpose depth other)
    (hdepth : stack.length + 1 + depth ≤ maxDepth) (done : List Json) (rest : List Char) :
    readValue purpose (.array done :: stack) (item.chars ++ itemsBehind items rest) =
      if purpose = .skip ∨ itemsInRange (item :: items) then
        readBehind purpose stack (array (done.reverse ++ item :: items)) rest
      else .error .malformed := by
  induction items generalizing item done with
  | nil =>
    have hitem := hitems item List.mem_cons_self (.array done :: stack) (itemsBehind [] rest)
      hdepth (endsValue_itemsBehind [] rest)
    have hclose : readBehind purpose (.array done :: stack) item (itemsBehind [] rest) =
        readBehind purpose stack (array (item :: done).reverse) rest := rfl
    rw [hitem, hclose, List.reverse_cons, itemsInRange, itemsInRange, Bool.and_true]
  | cons next items ih =>
    have hitem := hitems item List.mem_cons_self (.array done :: stack)
      (itemsBehind (next :: items) rest) hdepth (endsValue_itemsBehind (next :: items) rest)
    have hcomma : readBehind purpose (.array done :: stack) item
        (itemsBehind (next :: items) rest) =
          readValue purpose (.array (item :: done) :: stack)
            (next.chars ++ itemsBehind items rest) := rfl
    have hothers := ih (fun other hother ↦ hitems other (List.mem_cons_of_mem item hother))
      (item :: done)
    rw [hitem, hcomma, hothers, List.reverse_cons, List.append_assoc, ite_inRange]
    rfl

/-- The members of an object, from the value of one of them on. -/
theorem readValue_members {name : String} {value : Json} {members : List (String × Json)}
    (hvalues : ∀ member ∈ (name, value) :: members, ReadsBack purpose depth member.2)
    (hdepth : stack.length + 1 + depth ≤ maxDepth) (done : List (String × Json))
    (rest : List Char) :
    readValue purpose (.object done name :: stack) (value.chars ++ membersBehind members rest) =
      if purpose = .skip ∨ membersInRange ((name, value) :: members) then
        readBehind purpose stack (object (done.reverse ++ (name, value) :: members)) rest
      else .error .malformed := by
  induction members generalizing name value done with
  | nil =>
    have hvalue := hvalues (name, value) List.mem_cons_self (.object done name :: stack)
      (membersBehind [] rest) hdepth (endsValue_membersBehind [] rest)
    have hclose : readBehind purpose (.object done name :: stack) value (membersBehind [] rest) =
        readBehind purpose stack (object ((name, value) :: done).reverse) rest := rfl
    rw [hvalue, hclose, List.reverse_cons, membersInRange, membersInRange, Bool.and_true]
  | cons next members ih =>
    obtain ⟨nextName, nextValue⟩ := next
    have hvalue := hvalues (name, value) List.mem_cons_self (.object done name :: stack)
      (membersBehind ((nextName, nextValue) :: members) rest) hdepth
      (endsValue_membersBehind ((nextName, nextValue) :: members) rest)
    have hcomma : readBehind purpose (.object done name :: stack) value
        (membersBehind ((nextName, nextValue) :: members) rest) =
          readValue purpose (.object ((name, value) :: done) nextName :: stack)
            (nextValue.chars ++ membersBehind members rest) := by
      rw [readBehind, membersBehind, resume_member]
    have hothers := ih (fun member hmember ↦ hvalues member (List.mem_cons_of_mem _ hmember))
      ((name, value) :: done)
    rw [hvalue, hcomma, hothers, List.reverse_cons, List.append_assoc, ite_inRange]
    rfl

theorem mayOpen_of_lt (hdepth : stack.length < maxDepth) : mayOpen purpose stack = true := by
  simp [mayOpen, hdepth]

/-- A proper value is taken off a text. -/
theorem Proper.readsBack {value : Json} (hvalue : value.Proper depth) :
    ReadsBack purpose depth value := by
  -- Within a container the stack is longer by one, and the depth that is left is less by one.
  induction hvalue with
  | null => exact .of_readStart rfl fun _ _ _ ↦ rfl
  | bool _ value => exact .of_readStart rfl fun _ _ _ ↦ by cases value <;> rfl
  | @number _ written hwritten =>
    intro stack rest _ hrest
    rw [readValue_eq, chars, readStart_number hwritten hrest, inRange]
    by_cases hrange : purpose = .skip ∨ written.inRange = true
    · rw [if_pos hrange, if_pos hrange]
      rfl
    · rw [if_neg hrange, if_neg hrange]
  | string _ value => exact .of_readStart rfl fun stack rest _ ↦ readStart_encode_append value rest
  | @array depth items hitems ih =>
    cases items with
    | nil =>
      refine .of_readStart rfl fun stack rest hdepth ↦ ?_
      have hopen : mayOpen purpose stack = true := mayOpen_of_lt (by omega)
      show (if mayOpen purpose stack = true then _ else _) = _
      rw [if_pos hopen]
      rfl
    | cons item items =>
      intro stack rest hdepth _
      have hopen : mayOpen purpose stack = true := mayOpen_of_lt (by omega)
      have hopened := readStart_array hopen (hitems item List.mem_cons_self)
        (itemsBehind items rest)
      rw [chars_array_append, readValue_eq, hopened]
      exact readValue_items ih (by omega) [] rest
  | @object depth members _ _ ih =>
    cases members with
    | nil =>
      refine .of_readStart rfl fun stack rest hdepth ↦ ?_
      have hopen : mayOpen purpose stack = true := mayOpen_of_lt (by omega)
      show (if mayOpen purpose stack = true then _ else _) = _
      rw [if_pos hopen]
      rfl
    | cons member members =>
      obtain ⟨name, value⟩ := member
      intro stack rest hdepth _
      have hopen : mayOpen purpose stack = true := mayOpen_of_lt (by omega)
      rw [chars_object_append, readValue_opening hopen]
      exact readValue_members ih (by omega) [] rest

/-! ### Whole texts -/

/-- A proper value is passed over as a whole. -/
theorem Proper.read_skip_append {value : Json} {rest : List Char} (hvalue : value.Proper depth)
    (hdepth : depth ≤ maxDepth) (hrest : EndsValue rest) :
    read .skip (value.chars ++ rest) = .ok (value, rest) := by
  rw [read, hvalue.readsBack [] rest (by simpa using hdepth) hrest, if_pos (.inl rfl)]
  rfl

/-- The written form of a proper value stands for the value if all its numbers are in range, and
for nothing otherwise. -/
theorem Proper.parse_render {value : Json} (hvalue : value.Proper maxDepth) :
    parse value.render = if value.inRange then .ok value else .error .malformed := by
  have hread := @Proper.readsBack .keep _ _ hvalue [] [] (by simp) endsValue_nil
  rw [List.append_nil] at hread
  rw [parse, read, render, String.toList_ofList, hread]
  cases value.inRange <;> rfl

/-- This number is below the greatest floating-point number, but its significand is rounded up. -/
example : (number ⟨false, [1, 7, 9, 7, 6, 9, 3, 1, 3, 4, 8, 6, 2, 3, 1, 5, 6, 2, 2, 5], [],
    some ⟨false, [2, 8, 9]⟩⟩).inRange = false := by
  decide +kernel

end RecordTemplate.Json
