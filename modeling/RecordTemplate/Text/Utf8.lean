/-!
Byte sizes of texts in UTF-8, and the cut of a text at a byte offset. Offsets into a text count
bytes throughout the library, while texts are read character by character; `byteSize` and
`splitAtByte?` are the bridge. A cut exists exactly at the character boundaries
(`splitAtByte?_eq_some_iff`).
-/

set_option autoImplicit false
set_option relaxedAutoImplicit false

namespace RecordTemplate.Text

/-- The number of bytes that a text takes in UTF-8. -/
def byteSize (text : List Char) : Nat :=
  text.foldr (fun c size ↦ c.utf8Size + size) 0

@[simp] theorem byteSize_nil : byteSize [] = 0 := rfl

@[simp] theorem byteSize_cons (c : Char) (text : List Char) :
    byteSize (c :: text) = c.utf8Size + byteSize text := rfl

@[simp] theorem byteSize_append (text rest : List Char) :
    byteSize (text ++ rest) = byteSize text + byteSize rest := by
  induction text with
  | nil => simp
  | cons c text ih => simp [ih, Nat.add_assoc]

/-- The part of a text before a byte offset and the part after it, if the offset is a character
boundary of the text. -/
def splitAtByte? : Nat → List Char → Option (List Char × List Char)
  | 0, text => some ([], text)
  | _ + 1, [] => none
  | n + 1, c :: text =>
    if c.utf8Size ≤ n + 1 then
      (splitAtByte? (n + 1 - c.utf8Size) text).map fun (before, after) ↦ (c :: before, after)
    else none

/-- A text can be cut at an offset exactly if a part of it of that many bytes comes first. -/
theorem splitAtByte?_eq_some_iff {n : Nat} {text before after : List Char} :
    splitAtByte? n text = some (before, after) ↔ before ++ after = text ∧ byteSize before = n := by
  induction text generalizing n before after with
  | nil =>
    cases n with
    | zero => simp [splitAtByte?]; grind [byteSize_nil]
    | succ n => cases before <;> simp [splitAtByte?]
  | cons c text ih =>
    have hc := c.utf8Size_pos
    cases n with
    | zero =>
      cases before with
      | nil => simp [splitAtByte?]; grind
      | cons d before =>
        have hd := d.utf8Size_pos
        simp [splitAtByte?]
        omega
    | succ n =>
      cases before with
      | nil => simp [splitAtByte?]
      | cons d before =>
        simp only [splitAtByte?, Option.ite_none_right_eq_some, Option.map_eq_some_iff,
          Prod.exists, ih, Prod.mk.injEq, List.cons.injEq, List.cons_append, byteSize_cons]
        constructor
        · rintro ⟨hle, a, b, ⟨rfl, ha⟩, ⟨rfl, rfl⟩, rfl⟩
          exact ⟨⟨rfl, rfl⟩, by omega⟩
        · rintro ⟨⟨rfl, rfl⟩, h⟩
          exact ⟨by omega, before, after, ⟨rfl, by omega⟩, ⟨rfl, rfl⟩, rfl⟩

/-- The part of a text between two byte offsets, if both are character boundaries and the first one
does not lie behind the second. -/
def between? (start stop : Nat) (text : List Char) : Option (List Char) :=
  (splitAtByte? stop text).bind fun (front, _) ↦ (splitAtByte? start front).map Prod.snd

theorem between?_eq_some_iff {start stop : Nat} {text part : List Char} :
    between? start stop text = some part ↔
      ∃ before after, text = before ++ part ++ after ∧ byteSize before = start ∧
        byteSize before + byteSize part = stop := by
  simp only [between?, Option.bind_eq_some_iff, Option.map_eq_some_iff, Prod.exists,
    splitAtByte?_eq_some_iff]
  constructor
  · rintro ⟨front, after, ⟨rfl, rfl⟩, before, part, ⟨rfl, rfl⟩, rfl⟩
    exact ⟨before, after, rfl, rfl, (byteSize_append _ _).symm⟩
  · rintro ⟨before, after, rfl, rfl, rfl⟩
    exact ⟨before ++ part, after, ⟨rfl, byteSize_append _ _⟩, before, part, ⟨rfl, rfl⟩, rfl⟩

end RecordTemplate.Text
