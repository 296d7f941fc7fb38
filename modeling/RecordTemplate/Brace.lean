/-!
The two delimiters of a reference, and what a backslash right before one of them means: it escapes
the brace, so the two characters stand for the brace as literal text. A backslash before anything
else is an ordinary character, so a run of backslashes before a brace loses its last one only.
-/

set_option autoImplicit false
set_option relaxedAutoImplicit false

namespace RecordTemplate

inductive Brace
  | opening
  | closing
  deriving DecidableEq, Repr

namespace Brace

def char : Brace → Char
  | opening => '{'
  | closing => '}'

def ofChar? (c : Char) : Option Brace :=
  if c = '{' then some opening else if c = '}' then some closing else none

theorem ofChar?_eq_some_iff {c : Char} {brace : Brace} :
    ofChar? c = some brace ↔ c = brace.char := by
  cases brace <;> grind [ofChar?, char]

theorem ofChar?_eq_none_iff {c : Char} : ofChar? c = none ↔ c ≠ '{' ∧ c ≠ '}' := by
  grind [ofChar?]

end Brace

/-- A text with a backslash in front of each of its braces. -/
def escapeBraces (text : List Char) : List Char :=
  text.flatMap fun c ↦ if (Brace.ofChar? c).isSome then ['\\', c] else [c]

def startsWithBrace : List Char → Bool
  | [] => false
  | c :: _ => (Brace.ofChar? c).isSome

/-- A text without the backslashes that stand right before a brace. -/
def unescapeBraces : List Char → List Char
  | [] => []
  | c :: text =>
    if c = '\\' ∧ startsWithBrace text then unescapeBraces text else c :: unescapeBraces text

end RecordTemplate
