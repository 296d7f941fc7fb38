import RecordTemplate.Json.Lexeme

/-!
Reading JSON text. The containers that are open around a value stand on a stack (`Frame`). A value
is read up to its end if it has no parts, or else opened (`readStart`). Behind a finished value come
the containers that end with it, and then the next value of the one that does not (`resume`). Both
together take at least one character off the text, so the reading (`readValue`) ends, and deep
nesting costs it nothing but the stack.
-/

set_option autoImplicit false
set_option relaxedAutoImplicit false

namespace RecordTemplate.Json

/-- A container that is open: what it holds so far, last first, and the name of the member whose
value comes next. -/
inductive Frame
  | array (items : List Json)
  | object (members : List (String × Json)) (name : String)

/-- How many containers may be open at a time around and in a value that is kept. -/
def maxDepth : Nat := 127

/-- Whether one more container may be opened. -/
def mayOpen (purpose : Purpose) (stack : List Frame) : Bool :=
  purpose == .skip || stack.length < maxDepth

inductive Start
  | value (value : Json)
  | opened (frame : Frame)

/-- The start of the next value: all of it, or its opening bracket and, in an object, the name of
its first member. -/
def readStart (purpose : Purpose) (stack : List Frame) (text : List Char) :
    Except Fault (Start × List Char) :=
  match skipBlanks text with
  | '[' :: rest =>
    if mayOpen purpose stack then
      match skipBlanks rest with
      | ']' :: after => .ok (.value (array []), after)
      | _ => .ok (.opened (.array []), rest)
    else .error .malformed
  | '{' :: rest =>
    if mayOpen purpose stack then
      match skipBlanks rest with
      | '}' :: after => .ok (.value (object []), after)
      | _ => (readName purpose rest).map fun (name, after) ↦ (.opened (.object [] name), after)
    else .error .malformed
  | start => (readAtom purpose start).map fun (value, after) ↦ (.value value, after)

inductive Progress
  | finished (value : Json)
  /-- Another value has to come, within these containers. -/
  | unfinished (stack : List Frame)

/-- Goes on behind a value until the next value has to come, or until no container is open. -/
def resume (purpose : Purpose) :
    List Frame → Json → List Char → Except Fault (Progress × List Char)
  | [], value, text => .ok (.finished value, text)
  | .array items :: stack, value, text =>
    match skipBlanks text with
    | ',' :: rest => .ok (.unfinished (.array (value :: items) :: stack), rest)
    | ']' :: rest => resume purpose stack (array (value :: items).reverse) rest
    | rest => .error (.ofRest rest)
  | .object members name :: stack, value, text =>
    match skipBlanks text with
    | ',' :: rest =>
      (readName purpose rest).map fun (next, after) ↦
        (.unfinished (.object ((name, value) :: members) next :: stack), after)
    | '}' :: rest => resume purpose stack (object ((name, value) :: members).reverse) rest
    | rest => .error (.ofRest rest)

theorem length_lt_of_skipBlanks {text rest : List Char} {c : Char}
    (htext : skipBlanks text = c :: rest) : rest.length < text.length := by
  have hlength := skipBlanks_length text
  rw [htext] at hlength
  exact hlength

theorem readStart_length {purpose : Purpose} {stack : List Frame} {text rest : List Char}
    {start : Start} (hread : readStart purpose stack text = .ok (start, rest)) :
    rest.length < text.length := by
  unfold readStart at hread
  split at hread
  · rename_i tail htext
    have hlength := length_lt_of_skipBlanks htext
    split at hread
    · split at hread
      · rename_i after htail
        simp only [Except.ok.injEq, Prod.mk.injEq] at hread
        exact hread.2 ▸ Nat.lt_trans (length_lt_of_skipBlanks htail) hlength
      · simp only [Except.ok.injEq, Prod.mk.injEq] at hread
        exact hread.2 ▸ hlength
    · contradiction
  · rename_i tail htext
    have hlength := length_lt_of_skipBlanks htext
    split at hread
    · split at hread
      · rename_i after htail
        simp only [Except.ok.injEq, Prod.mk.injEq] at hread
        exact hread.2 ▸ Nat.lt_trans (length_lt_of_skipBlanks htail) hlength
      · exact Nat.lt_trans (map_length (f := fun name ↦ Start.opened (.object [] name))
          (fun _ _ h ↦ readName_length h) hread) hlength
    · contradiction
  · exact Nat.lt_of_lt_of_le
      (map_length (f := Start.value) (fun _ _ h ↦ readAtom_length h) hread)
      (skipBlanks_length text)

theorem resume_length {purpose : Purpose} {stack : List Frame} {value : Json}
    {text rest : List Char} {progress : Progress}
    (hread : resume purpose stack value text = .ok (progress, rest)) :
    rest.length ≤ text.length := by
  fun_induction resume purpose stack value text with
  | case1 value text =>
    simp only [Except.ok.injEq, Prod.mk.injEq] at hread
    exact hread.2 ▸ Nat.le_refl _
  | case2 items stack value text tail htext =>
    simp only [Except.ok.injEq, Prod.mk.injEq] at hread
    exact hread.2 ▸ Nat.le_of_lt (length_lt_of_skipBlanks htext)
  | case3 items stack value text tail htext ih =>
    exact Nat.le_trans (ih hread) (Nat.le_of_lt (length_lt_of_skipBlanks htext))
  | case4 => contradiction
  | case5 members name stack value text tail htext =>
    exact Nat.le_of_lt (Nat.lt_trans
      (map_length (f := fun next ↦ Progress.unfinished
        (.object ((name, value) :: members) next :: stack)) (fun _ _ h ↦ readName_length h) hread)
      (length_lt_of_skipBlanks htext))
  | case6 members name stack value text tail htext ih =>
    exact Nat.le_trans (ih hread) (Nat.le_of_lt (length_lt_of_skipBlanks htext))
  | case7 => contradiction

/-- Reads a value and what is left of the containers around it. -/
def readValue (purpose : Purpose) (stack : List Frame) (text : List Char) :
    Except Fault (Json × List Char) :=
  match hstart : readStart purpose stack text with
  | .error fault => .error fault
  | .ok (.opened frame, rest) =>
    have : rest.length < text.length := readStart_length hstart
    readValue purpose (frame :: stack) rest
  | .ok (.value value, rest) =>
    match hresume : resume purpose stack value rest with
    | .error fault => .error fault
    | .ok (.finished value, after) => .ok (value, after)
    | .ok (.unfinished stack, after) =>
      have : after.length < text.length :=
        Nat.lt_of_le_of_lt (resume_length hresume) (readStart_length hstart)
      readValue purpose stack after
termination_by text.length

theorem readValue_length {purpose : Purpose} {stack : List Frame} {text rest : List Char}
    {value : Json} (hread : readValue purpose stack text = .ok (value, rest)) :
    rest.length < text.length := by
  fun_induction readValue purpose stack text with
  | case1 => contradiction
  | case2 stack text frame tail hstart hlength ih => exact Nat.lt_trans (ih hread) hlength
  | case3 => contradiction
  | case4 stack text start tail hstart result after hresume =>
    simp only [Except.ok.injEq, Prod.mk.injEq] at hread
    exact hread.2 ▸ Nat.lt_of_le_of_lt (resume_length hresume) (readStart_length hstart)
  | case5 stack text start tail hstart stack' after hresume hlength ih =>
    exact Nat.lt_trans (ih hread) hlength

/-- The value that a text starts with, and the rest of the text. -/
def read (purpose : Purpose) (text : List Char) : Except Fault (Json × List Char) :=
  readValue purpose [] text

/-- A value behind which nothing but blanks may be left. -/
def finish {α : Type} (value : α) (rest : List Char) : Except Fault α :=
  if (skipBlanks rest).isEmpty then .ok value else .error .malformed

/-- The value that a text consists of. -/
def parse (text : String) : Except Fault Json :=
  match read .keep text.toList with
  | .error fault => .error fault
  | .ok (value, rest) => finish value rest

end RecordTemplate.Json
