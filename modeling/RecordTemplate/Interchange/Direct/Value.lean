import RecordTemplate.Interchange.Tree

/-!
Reading templates and encodings straight from JSON text, from left to right and no further than the
first thing that is wrong. Each reader returns what it has read and the rest of the text, which is
shorter (`readTemplate_length`, `readEncoding_length`).
-/

set_option autoImplicit false
set_option relaxedAutoImplicit false

namespace RecordTemplate.Direct

open Json (skipBlanks)

/-! ### Values of the wrong type -/

/-- The error of a value that is not what is expected. A value without parts is read first, which
may fail in turn; a container is known by its bracket. -/
def wrongType (expected : Expectation) (text : List Char) : ReadError :=
  match text with
  | '[' :: _ => .mismatch (.wrongType .sequence expected)
  | '{' :: _ => .mismatch (.wrongType .map expected)
  | _ =>
    match Json.readAtom .keep text with
    | .error fault => .fault fault
    | .ok (value, _) => .mismatch (.wrongType value.found expected)

/-- The text of a string. -/
def readString (expected : Expectation) (text : List Char) :
    Except ReadError (String × List Char) :=
  match skipBlanks text with
  | '"' :: _ => (Json.readString .keep text).mapError .fault
  | start => .error (wrongType expected start)

def readNull (expected : Expectation) (text : List Char) : Except ReadError (List Char) :=
  match skipBlanks text with
  | 'n' :: rest => (Json.readWord ['u', 'l', 'l'] rest).mapError .fault
  | start => .error (wrongType expected start)

def readMark (mark : Char) (text : List Char) : Except ReadError (List Char) :=
  (Json.readMark mark text).mapError .fault

/-! ### Templates and encodings -/

def readTemplate (text : List Char) : Except ReadError (Template × List Char) := do
  let (source, rest) ← readString .template text
  return (Template.parse source, rest)

/-- The encoding that a string names. As the name of the only member of an object it is no value of
its own, so anything but a string is a fault of the text. -/
def readEncodingName (text : List Char) : Except ReadError (Encoding × List Char) := do
  let (name, rest) ← (Json.readString .keep text).mapError .fault
  return (← (Encoding.named name).mapError .mismatch, rest)

/-- An encoding. Whatever starts neither a string nor an object is no encoding, and is not looked
at further. -/
def readEncoding (text : List Char) : Except ReadError (Encoding × List Char) :=
  match skipBlanks text with
  | '"' :: _ => readEncodingName text
  | '{' :: rest => do
    let (encoding, rest) ← readEncodingName rest
    let rest ← readMark ':' rest
    let rest ← readNull .unit rest
    let rest ← readMark '}' rest
    return (encoding, rest)
  | rest => .error (.fault (.ofRest rest))

/-! ### Lengths -/

theorem bind_eq_ok {ε α β : Type} {result : Except ε α} {next : α → Except ε β} {value : β} :
    (result >>= next) = .ok value ↔ ∃ first, result = .ok first ∧ next first = .ok value := by
  cases result <;> simp [bind, Except.bind]

theorem mapError_eq_ok {ε ε' α : Type} {result : Except ε α} {f : ε → ε'} {value : α} :
    result.mapError f = .ok value ↔ result = .ok value := by
  cases result with
  | error => exact ⟨nofun, nofun⟩
  | ok =>
    constructor <;> intro h
    · exact congrArg Except.ok (Except.ok.inj h)
    · exact congrArg Except.ok (Except.ok.inj h)

theorem readString_length {expected : Expectation} {text rest : List Char} {value : String}
    (hread : readString expected text = .ok (value, rest)) : rest.length < text.length := by
  unfold readString at hread
  split at hread
  · exact Json.readString_length (mapError_eq_ok.mp hread)
  · contradiction

theorem readNull_length {expected : Expectation} {text rest : List Char}
    (hread : readNull expected text = .ok rest) : rest.length < text.length := by
  unfold readNull at hread
  split at hread
  · rename_i tail htext
    exact Nat.lt_of_le_of_lt (Json.readWord_length (mapError_eq_ok.mp hread))
      (Json.length_lt_of_skipBlanks htext)
  · contradiction

theorem readMark_length {mark : Char} {text rest : List Char}
    (hread : readMark mark text = .ok rest) : rest.length < text.length :=
  Json.readMark_length (mapError_eq_ok.mp hread)

theorem readTemplate_length {text rest : List Char} {template : Template}
    (hread : readTemplate text = .ok (template, rest)) : rest.length < text.length := by
  obtain ⟨⟨source, tail⟩, hstring, hrest⟩ := bind_eq_ok.mp hread
  simp only [pure, Except.pure, Except.ok.injEq, Prod.mk.injEq] at hrest
  exact hrest.2 ▸ readString_length hstring

theorem readEncodingName_length {text rest : List Char} {encoding : Encoding}
    (hread : readEncodingName text = .ok (encoding, rest)) : rest.length < text.length := by
  obtain ⟨⟨name, tail⟩, hstring, hnamed⟩ := bind_eq_ok.mp hread
  obtain ⟨value, _, hrest⟩ := bind_eq_ok.mp hnamed
  simp only [pure, Except.pure, Except.ok.injEq, Prod.mk.injEq] at hrest
  exact hrest.2 ▸ Json.readString_length (mapError_eq_ok.mp hstring)

theorem readEncoding_length {text rest : List Char} {encoding : Encoding}
    (hread : readEncoding text = .ok (encoding, rest)) : rest.length < text.length := by
  unfold readEncoding at hread
  split at hread
  · exact readEncodingName_length hread
  · rename_i tail htext
    obtain ⟨⟨value, afterName⟩, hname, hread⟩ := bind_eq_ok.mp hread
    obtain ⟨afterColon, hcolon, hread⟩ := bind_eq_ok.mp hread
    obtain ⟨afterNull, hnull, hread⟩ := bind_eq_ok.mp hread
    obtain ⟨afterEnd, hend, hread⟩ := bind_eq_ok.mp hread
    simp only [pure, Except.pure, Except.ok.injEq, Prod.mk.injEq] at hread
    have htext := Json.length_lt_of_skipBlanks htext
    have hname := readEncodingName_length hname
    have hcolon := readMark_length hcolon
    have hnull := readNull_length hnull
    have hend := readMark_length hend
    rw [← hread.2]
    omega
  · contradiction

end RecordTemplate.Direct
