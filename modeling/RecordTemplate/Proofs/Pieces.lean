import RecordTemplate.Template.Segment
import RecordTemplate.Text.Utf8
import RecordTemplate.Proofs.Tokens

/-!
The pieces of a template source: stretches of literal text and references. A reference is a bare
opening brace, a name of at least one token and the first bare closing brace behind the opening
one. A brace that delimits no reference is literal text.

The tokens are read from the last to the first (`Reading.push`). What a reference needs to know of
the text behind its opening brace, its name and what follows its closing brace, is then at hand as
`Reading.closing?`, and the reading is an induction on the tokens. The laws
`Piece.ofTokens_cons_opening` and `Piece.ofTokens_cons_of_ne` state the same reading from the first
token on, with the search for a closing brace done afresh (`splitAtClosing?`) at every opening
brace. A parser, which goes over the bytes of a source, finds the segments of its pieces
(`Template.parse_eq`).
-/

set_option autoImplicit false
set_option relaxedAutoImplicit false

namespace RecordTemplate

inductive Piece
  | literal (tokens : List Token)
  | reference (name : List Token)
  deriving DecidableEq, Repr

namespace Piece

/-- The characters that a piece is written with, the braces of a reference included. -/
def source : Piece → List Char
  | literal tokens => tokens.flatMap Token.source
  | reference name => '{' :: name.flatMap Token.source ++ ['}']

/-- One more literal token in front of the pieces: it joins the literal text that they start with,
if they do, so two literal pieces are never neighbours. -/
def prependLiteral (token : Token) : List Piece → List Piece
  | literal tokens :: rest => literal (token :: tokens) :: rest
  | pieces => literal [token] :: pieces

end Piece

/-- What stands in front of a bare closing brace, up to the position where the reading has arrived,
and the pieces behind that brace. -/
structure Closing where
  name : List Token
  rest : List Piece

/-- A text read from its end up to some position: its pieces, and its first bare closing brace. -/
structure Reading where
  pieces : List Piece
  closing? : Option Closing

namespace Reading

def empty : Reading := ⟨[], none⟩

/-- One more token in front. Only a bare opening brace with a bare closing brace behind it, and
something between the two, starts a reference. -/
def push (token : Token) (reading : Reading) : Reading where
  pieces :=
    match token, reading.closing? with
    | .bare .opening, some ⟨first :: name, rest⟩ => .reference (first :: name) :: rest
    | _, _ => Piece.prependLiteral token reading.pieces
  closing? :=
    if token = .bare .closing then some ⟨[], reading.pieces⟩
    else reading.closing?.map fun closing ↦ { closing with name := token :: closing.name }

def ofTokens (tokens : List Token) : Reading :=
  tokens.foldr push empty

end Reading

/-- The pieces that a list of tokens consists of. -/
def Piece.ofTokens (tokens : List Token) : List Piece :=
  (Reading.ofTokens tokens).pieces

/-! ### Segments -/

/-- The segment of a piece that starts at an offset. The braces of a reference take a byte each. -/
def Piece.segment (start : Nat) : Piece → Segment
  | literal tokens =>
    ⟨.constant (String.ofList (tokens.map Token.text)),
      ⟨start, start + Text.byteSize (tokens.flatMap Token.source)⟩⟩
  | reference name =>
    ⟨.reference (String.ofList (name.map Token.text)),
      ⟨start + 1, start + 1 + Text.byteSize (name.flatMap Token.source)⟩⟩

/-- The segments of pieces that stand side by side from an offset on. -/
def Segment.ofPieces (start : Nat) : List Piece → List Segment
  | [] => []
  | piece :: pieces =>
    piece.segment start :: ofPieces (start + Text.byteSize piece.source) pieces

/-! ### Reading from the front -/

/-- What stands before the first bare closing brace, and what stands behind it. -/
def splitAtClosing? : List Token → Option (List Token × List Token)
  | [] => none
  | token :: tokens =>
    if token = .bare .closing then some ([], tokens)
    else (splitAtClosing? tokens).map fun (before, after) ↦ (token :: before, after)

theorem Reading.ofTokens_cons (token : Token) (tokens : List Token) :
    ofTokens (token :: tokens) = (ofTokens tokens).push token := rfl

theorem Reading.closing?_ofTokens (tokens : List Token) :
    (ofTokens tokens).closing? =
      (splitAtClosing? tokens).map fun (before, after) ↦ ⟨before, Piece.ofTokens after⟩ := by
  induction tokens with
  | nil => rfl
  | cons token tokens ih =>
    simp only [ofTokens_cons, push, splitAtClosing?, ih]
    split
    · rfl
    · cases splitAtClosing? tokens <;> rfl

@[simp] theorem Piece.ofTokens_nil : ofTokens [] = [] := rfl

/-- At a bare opening brace the reading searches for the first bare closing brace behind it, and
goes on behind that brace if there is one and the name is not empty. -/
theorem Piece.ofTokens_cons_opening (tokens : List Token) :
    ofTokens (.bare .opening :: tokens) =
      match splitAtClosing? tokens with
      | some (first :: name, rest) => reference (first :: name) :: ofTokens rest
      | _ => prependLiteral (.bare .opening) (ofTokens tokens) := by
  simp only [ofTokens, Reading.ofTokens_cons, Reading.push, Reading.closing?_ofTokens]
  rcases splitAtClosing? tokens with _ | ⟨_ | ⟨first, name⟩, rest⟩ <;> rfl

/-- Every other token is literal text. -/
theorem Piece.ofTokens_cons_of_ne {token : Token} (htoken : token ≠ .bare .opening)
    (tokens : List Token) :
    ofTokens (token :: tokens) = prependLiteral token (ofTokens tokens) := by
  simp only [ofTokens, Reading.ofTokens_cons, Reading.push]
  split
  · contradiction
  · rfl

end RecordTemplate
