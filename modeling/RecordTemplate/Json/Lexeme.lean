import RecordTemplate.Json.Basic

/-!
What JSON text is made of below its containers: words, punctuation, the names of members, and the
values without parts. Each reader takes characters off the start of a text, and those that the
reading of containers depends on take at least one (`readString_length`, `readName_length`,
`readAtom_length`).

The first fault of a text is the one that is reported. It is `truncated` if the text ends where the
value cannot, and `malformed` otherwise.
-/

set_option autoImplicit false
set_option relaxedAutoImplicit false

namespace RecordTemplate.Json

/-! ### Words and punctuation -/

def isBlank (c : Char) : Bool :=
  c == ' ' || c == '\t' || c == '\n' || c == '\r'

def skipBlanks (text : List Char) : List Char :=
  text.dropWhile isBlank

theorem skipBlanks_length (text : List Char) : (skipBlanks text).length ≤ text.length :=
  (List.dropWhile_suffix isBlank).length_le

/-- What stands behind a word, which has to be there letter for letter. -/
def readWord : List Char → List Char → Except Fault (List Char)
  | [], text => .ok text
  | _ :: _, [] => .error .truncated
  | letter :: word, c :: text =>
    if c = letter then readWord word text else .error .malformed

theorem readWord_length {word text rest : List Char} (hread : readWord word text = .ok rest) :
    rest.length ≤ text.length := by
  fun_induction readWord word text with
  | case1 text =>
    simp only [Except.ok.injEq] at hread
    exact hread ▸ Nat.le_refl _
  | case2 => contradiction
  | case3 letter word text ih => exact Nat.le_succ_of_le (ih hread)
  | case4 => contradiction

/-- What stands behind a character that has to come next, blanks aside. -/
def readMark (mark : Char) (text : List Char) : Except Fault (List Char) :=
  match skipBlanks text with
  | [] => .error .truncated
  | c :: rest => if c = mark then .ok rest else .error .malformed

theorem readMark_length {mark : Char} {text rest : List Char}
    (hread : readMark mark text = .ok rest) : rest.length < text.length := by
  have hblanks := skipBlanks_length text
  unfold readMark at hread
  split at hread
  · contradiction
  · rename_i c tail htail
    rw [htail] at hblanks
    split at hread
    · simp only [Except.ok.injEq] at hread
      exact hread ▸ hblanks
    · contradiction

/-- The text of a string that has to come next, blanks aside. -/
def readString (purpose : Purpose) (text : List Char) : Except Fault (String × List Char) :=
  match readMark '"' text with
  | .error fault => .error fault
  | .ok rest =>
    (StringLiteral.read purpose rest).map fun (chars, after) ↦ (String.ofList chars, after)

/-- The name of a member of an object and the colon behind it. -/
def readName (purpose : Purpose) (text : List Char) : Except Fault (String × List Char) :=
  match readString purpose text with
  | .error fault => .error fault
  | .ok (name, rest) => (readMark ':' rest).map fun after ↦ (name, after)

/-! ### Values without parts -/

/-- The value that a text starts with, if it is not a container. A number that is kept has to be in
range. -/
def readAtom (purpose : Purpose) (text : List Char) : Except Fault (Json × List Char) :=
  match text with
  | [] => .error .truncated
  | 'n' :: rest => (readWord ['u', 'l', 'l'] rest).map fun after ↦ (null, after)
  | 't' :: rest => (readWord ['r', 'u', 'e'] rest).map fun after ↦ (bool true, after)
  | 'f' :: rest => (readWord ['a', 'l', 's', 'e'] rest).map fun after ↦ (bool false, after)
  | '"' :: rest =>
    (StringLiteral.read purpose rest).map fun (chars, after) ↦
      (string (String.ofList chars), after)
  | c :: rest =>
    if c = '-' ∨ (Digit.ofChar? c).isSome then
      match Number.read purpose (c :: rest) with
      | .error fault => .error fault
      | .ok (written, after) =>
        if purpose = .skip ∨ written.inRange then .ok (number written, after)
        else .error .malformed
    else .error .malformed

/-! ### Lengths -/

theorem map_length {α β : Type} {result : Except Fault (α × List Char)} {f : α → β} {value : β}
    {rest : List Char} {bound : Nat}
    (hresult : ∀ a after, result = .ok (a, after) → after.length < bound)
    (hmap : (result.map fun (a, after) ↦ (f a, after)) = .ok (value, rest)) :
    rest.length < bound := by
  match result, hresult with
  | .ok (a, after), hresult =>
    simp only [Except.map, Except.ok.injEq, Prod.mk.injEq] at hmap
    exact hmap.2 ▸ hresult a after rfl

theorem StringLiteral.read_length {purpose : Purpose} {text rest chars : List Char}
    (hread : StringLiteral.read purpose text = .ok (chars, rest)) : rest.length < text.length := by
  fun_induction StringLiteral.read purpose text generalizing chars rest with
  | case1 => contradiction
  | case2 tail =>
    simp only [Except.ok.injEq, Prod.mk.injEq] at hread
    exact hread.2 ▸ Nat.lt_succ_self _
  | case3 => contradiction
  | case4 tail c behind _ hlength ih =>
    have := map_length (fun _ _ h ↦ ih h) hread
    simp only [List.length_cons]
    omega
  | case5 => contradiction
  | case6 c tail _ _ _ ih =>
    exact Nat.lt_succ_of_lt (map_length (fun _ _ h ↦ ih h) hread)

theorem readString_length {purpose : Purpose} {text rest : List Char} {value : String}
    (hread : readString purpose text = .ok (value, rest)) : rest.length < text.length := by
  unfold readString at hread
  split at hread
  · contradiction
  · rename_i tail hmark
    exact Nat.lt_trans (map_length (fun _ _ h ↦ StringLiteral.read_length h) hread)
      (readMark_length hmark)

theorem readName_length {purpose : Purpose} {text rest : List Char} {name : String}
    (hread : readName purpose text = .ok (name, rest)) : rest.length < text.length := by
  unfold readName at hread
  split at hread
  · contradiction
  · rename_i value tail hstring
    have hlength := readString_length hstring
    match hmark : readMark ':' tail with
    | .error _ => simp [hmark, Except.map] at hread
    | .ok after =>
      simp only [hmark, Except.map, Except.ok.injEq, Prod.mk.injEq] at hread
      exact hread.2 ▸ Nat.lt_trans (readMark_length hmark) hlength

theorem readAtom_length {purpose : Purpose} {text rest : List Char} {value : Json}
    (hread : readAtom purpose text = .ok (value, rest)) : rest.length < text.length := by
  have hword : ∀ {word tail : List Char} {atom : Json} {first : Char},
      (readWord word tail).map (fun after ↦ (atom, after)) = .ok (value, rest) →
        rest.length < (first :: tail).length := by
    intro word tail atom first h
    match hw : readWord word tail with
    | .error _ => simp [hw, Except.map] at h
    | .ok after =>
      simp only [hw, Except.map, Except.ok.injEq, Prod.mk.injEq] at h
      exact h.2 ▸ Nat.lt_succ_of_le (readWord_length hw)
  unfold readAtom at hread
  split at hread
  · contradiction
  · exact hword hread
  · exact hword hread
  · exact hword hread
  · exact Nat.lt_succ_of_lt (map_length (f := fun chars ↦ string (String.ofList chars))
      (fun _ _ h ↦ StringLiteral.read_length h) hread)
  · split at hread
    · split at hread
      · contradiction
      · rename_i written after hnumber
        split at hread
        · simp only [Except.ok.injEq, Prod.mk.injEq] at hread
          exact hread.2 ▸ Number.read_length hnumber
        · contradiction
    · contradiction

end RecordTemplate.Json
