import RecordTemplate.Brace

/-!
Tokens of the template syntax. A brace right behind a backslash is escaped: the two characters
stand for the brace itself. Every other brace is bare and may delimit a reference. A backslash
before anything but a brace is an ordinary character, so a run of backslashes before a brace loses
its last one only.

A text is scanned from its end (`scan`): whether a backslash escapes something is decided by the
one token behind it. Nothing is lost by scanning (`flatMap_source_scan`).
-/

set_option autoImplicit false
set_option relaxedAutoImplicit false

namespace RecordTemplate

inductive Token
  | plain (c : Char)
  | escaped (brace : Brace)
  | bare (brace : Brace)
  deriving DecidableEq, Repr

namespace Token

/-- The character that a token stands for as literal text. -/
def text : Token → Char
  | plain c => c
  | escaped brace | bare brace => brace.char

/-- The characters that a token is written with. -/
def source : Token → List Char
  | plain c => [c]
  | escaped brace => ['\\', brace.char]
  | bare brace => [brace.char]

/-- The token of a character that no backslash precedes. -/
def ofChar (c : Char) : Token :=
  match Brace.ofChar? c with
  | some brace => bare brace
  | none => plain c

/-- One more character in front of a scanned text: a backslash escapes a bare brace right behind
it, and every other character is a token of its own. -/
def attach (c : Char) (tokens : List Token) : List Token :=
  match tokens with
  | bare brace :: rest => if c = '\\' then escaped brace :: rest else ofChar c :: tokens
  | _ => ofChar c :: tokens

/-- The tokens of a text. -/
def scan (text : List Char) : List Token :=
  text.foldr attach []

@[simp] theorem scan_nil : scan [] = [] := rfl

@[simp] theorem scan_cons (c : Char) (text : List Char) : scan (c :: text) = attach c (scan text) :=
  rfl

theorem source_ofChar (c : Char) : (ofChar c).source = [c] := by
  unfold ofChar
  split
  · simp_all [source, Brace.ofChar?_eq_some_iff]
  · rfl

theorem flatMap_source_attach (c : Char) (tokens : List Token) :
    (attach c tokens).flatMap source = c :: tokens.flatMap source := by
  unfold attach
  split
  · split
    · simp_all [source]
    · simp [source_ofChar]
  · simp [source_ofChar]

/-- The tokens of a text, written out, are the text. -/
@[simp] theorem flatMap_source_scan (text : List Char) : (scan text).flatMap source = text := by
  induction text with
  | nil => rfl
  | cons c text ih => simp [flatMap_source_attach, ih]

end Token

end RecordTemplate
