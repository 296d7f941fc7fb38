import RecordTemplate.Proofs.Escaping
import RecordTemplate.Proofs.Pieces

/-!
The reading of tokens as pieces, from the front (`Piece.Reads`). At each position either a
reference starts, with a name that is not empty and reaches up to the first bare closing brace, or
the next token is literal text. `reads_ofTokens` shows that the pieces of a list of tokens are read
so. The laws of pieces follow by induction on the reading: their tokens are those that were read
(`Reads.flatMap_tokens`), and they are in normal form (`Reads.normal`), with no empty piece and no
two literal pieces side by side. Literal text without a bare opening brace becomes one piece
(`ofTokens_append_of_literal`).
-/

set_option autoImplicit false
set_option relaxedAutoImplicit false

namespace RecordTemplate

open Token

/-! ### The search for a closing brace -/

theorem splitAtClosing?_append {before : List Token} (hbefore : bare .closing ∉ before)
    (after : List Token) :
    splitAtClosing? (before ++ bare .closing :: after) = some (before, after) := by
  induction before with
  | nil => simp [splitAtClosing?]
  | cons token before ih =>
    obtain ⟨htoken, hrest⟩ := List.ne_and_not_mem_of_not_mem_cons hbefore
    rw [List.cons_append, splitAtClosing?, if_neg (Ne.symm htoken), ih hrest]
    rfl

theorem splitAtClosing?_eq_none {tokens : List Token} (htokens : bare .closing ∉ tokens) :
    splitAtClosing? tokens = none := by
  induction tokens with
  | nil => rfl
  | cons token tokens ih =>
    obtain ⟨htoken, hrest⟩ := List.ne_and_not_mem_of_not_mem_cons htokens
    rw [splitAtClosing?, if_neg (Ne.symm htoken), ih hrest]
    rfl

theorem splitAtClosing?_eq_some_iff {tokens before after : List Token} :
    splitAtClosing? tokens = some (before, after) ↔
      tokens = before ++ bare .closing :: after ∧ bare .closing ∉ before := by
  constructor
  · intro hsplit
    by_cases hclosing : bare .closing ∈ tokens
    · obtain ⟨name, rest, rfl, hname⟩ := List.eq_append_cons_of_mem hclosing
      rw [splitAtClosing?_append hname] at hsplit
      obtain ⟨rfl, rfl⟩ := Prod.mk.inj (Option.some.inj hsplit)
      exact ⟨rfl, hname⟩
    · rw [splitAtClosing?_eq_none hclosing] at hsplit
      contradiction
  · rintro ⟨rfl, hbefore⟩
    exact splitAtClosing?_append hbefore after

theorem splitAtClosing?_eq_none_iff {tokens : List Token} :
    splitAtClosing? tokens = none ↔ bare .closing ∉ tokens := by
  constructor
  · intro hsplit hclosing
    obtain ⟨name, rest, rfl, hname⟩ := List.eq_append_cons_of_mem hclosing
    rw [splitAtClosing?_append hname] at hsplit
    contradiction
  · exact splitAtClosing?_eq_none

namespace Piece

/-! ### Reading from the front -/

/-- The tokens that a piece consists of, the braces of a reference included. -/
def tokens : Piece → List Token
  | literal tokens => tokens
  | reference name => bare .opening :: name ++ [bare .closing]

theorem source_eq (piece : Piece) : piece.source = piece.tokens.flatMap Token.source := by
  cases piece with
  | literal tokens => rfl
  | reference name => simp [source, tokens, Token.source, Brace.char]

theorem flatMap_source_eq (pieces : List Piece) :
    pieces.flatMap source = (pieces.flatMap tokens).flatMap Token.source := by
  rw [List.flatMap_assoc]
  exact congrArg pieces.flatMap (funext source_eq)

/-- A name of a reference: it is not empty, and the first bare closing brace stands behind it. -/
def IsName (name : List Token) : Prop :=
  name ≠ [] ∧ bare .closing ∉ name

/-- A reference stands at the front of the tokens. -/
def StartsReference (tokens : List Token) : Prop :=
  ∃ name rest, IsName name ∧ tokens = (reference name).tokens ++ rest

/-- Pieces are read from the front of the tokens on: a reference where one starts, and else one
more token of literal text. -/
inductive Reads : List Token → List Piece → Prop
  | done : Reads [] []
  | literal {token : Token} {tokens : List Token} {pieces : List Piece}
      (hstart : ¬ StartsReference (token :: tokens)) (hrest : Reads tokens pieces) :
      Reads (token :: tokens) (prependLiteral token pieces)
  | reference {name rest : List Token} {pieces : List Piece} (hname : IsName name)
      (hrest : Reads rest pieces) :
      Reads ((reference name).tokens ++ rest) (reference name :: pieces)

theorem tokens_reference_append (name rest : List Token) :
    (reference name).tokens ++ rest = bare .opening :: (name ++ bare .closing :: rest) := by
  simp [tokens]

theorem ofTokens_reference_append {name : List Token} (hname : IsName name) (rest : List Token) :
    ofTokens ((reference name).tokens ++ rest) = reference name :: ofTokens rest := by
  rw [tokens_reference_append, ofTokens_cons_opening, splitAtClosing?_append hname.2]
  obtain ⟨first, name, rfl⟩ := List.exists_cons_of_ne_nil hname.1
  rfl

theorem ofTokens_cons_of_not_startsReference {token : Token} {tokens : List Token}
    (hstart : ¬ StartsReference (token :: tokens)) :
    ofTokens (token :: tokens) = prependLiteral token (ofTokens tokens) := by
  by_cases htoken : token = bare .opening
  · subst htoken
    rw [ofTokens_cons_opening]
    by_cases hclosing : bare .closing ∈ tokens
    · obtain ⟨name, rest, rfl, hname⟩ := List.eq_append_cons_of_mem hclosing
      have hempty : name = [] := by
        by_contra hne
        exact hstart ⟨name, rest, ⟨hne, hname⟩, (tokens_reference_append name rest).symm⟩
      rw [splitAtClosing?_append hname, hempty]
    · rw [splitAtClosing?_eq_none hclosing]
  · exact ofTokens_cons_of_ne htoken tokens

/-- The pieces of tokens are those that are read from the front. -/
theorem reads_ofTokens (tokens : List Token) : Reads tokens (ofTokens tokens) := by
  induction hlength : tokens.length using Nat.strong_induction_on generalizing tokens with
  | _ length ih =>
    by_cases hstart : StartsReference tokens
    · obtain ⟨name, rest, hname, rfl⟩ := hstart
      rw [ofTokens_reference_append hname]
      refine Reads.reference hname (ih rest.length ?_ rest rfl)
      simp [tokens] at hlength
      omega
    · cases tokens with
      | nil => exact Reads.done
      | cons token tokens =>
        rw [ofTokens_cons_of_not_startsReference hstart]
        exact Reads.literal hstart (ih tokens.length (by simp at hlength; omega) tokens rfl)

/-! ### What was read -/

theorem flatMap_tokens_prependLiteral (token : Token) (pieces : List Piece) :
    (prependLiteral token pieces).flatMap tokens = token :: pieces.flatMap tokens := by
  unfold prependLiteral
  split <;> rfl

theorem Reads.flatMap_tokens {tokens : List Token} {pieces : List Piece}
    (hread : Reads tokens pieces) : pieces.flatMap Piece.tokens = tokens := by
  induction hread with
  | done => rfl
  | literal _ _ ih => rw [flatMap_tokens_prependLiteral, ih]
  | reference _ _ ih => rw [List.flatMap_cons, ih]

def IsLiteral : Piece → Prop
  | literal _ => True
  | reference _ => False

/-- A piece that can come out of a reading: it is not empty, and a name stops short of the first
bare closing brace. -/
def IsFilled : Piece → Prop
  | literal tokens => tokens ≠ []
  | reference name => IsName name

/-- The tokens of a piece that stand for its text. -/
def content : Piece → List Token
  | literal tokens => tokens
  | reference name => name

theorem IsFilled.content_ne_nil {piece : Piece} (hfilled : piece.IsFilled) :
    piece.content ≠ [] := by
  cases piece with
  | literal tokens => exact hfilled
  | reference name => exact hfilled.1

/-- Pieces in normal form: none is empty, and no two literal ones are neighbours. -/
structure Normal (pieces : List Piece) : Prop where
  filled : ∀ piece ∈ pieces, piece.IsFilled
  apart : pieces.IsChain fun first second ↦ ¬ (first.IsLiteral ∧ second.IsLiteral)

theorem Normal.prependLiteral {pieces : List Piece} (h : Normal pieces) (token : Token) :
    Normal (Piece.prependLiteral token pieces) := by
  unfold Piece.prependLiteral
  split
  · next tokens rest =>
    obtain ⟨hhead, htail⟩ := List.isChain_cons.mp h.apart
    exact ⟨List.forall_mem_cons.mpr ⟨List.cons_ne_nil _ _, (List.forall_mem_cons.mp h.filled).2⟩,
      List.isChain_cons.mpr ⟨fun next hnext ⟨_, hliteral⟩ ↦ hhead next hnext ⟨trivial, hliteral⟩,
        htail⟩⟩
  · next hpieces =>
    refine ⟨List.forall_mem_cons.mpr ⟨List.cons_ne_nil _ _, h.filled⟩,
      List.isChain_cons.mpr ⟨?_, h.apart⟩⟩
    rintro (tokens | name) hnext ⟨-, hliteral⟩
    · obtain ⟨rest, hrest⟩ := List.head?_eq_some_iff.mp hnext
      exact hpieces tokens rest hrest
    · exact hliteral

theorem Reads.normal {tokens : List Token} {pieces : List Piece} (hread : Reads tokens pieces) :
    Normal pieces := by
  induction hread with
  | done => exact ⟨by simp, List.isChain_nil⟩
  | literal _ _ ih => exact ih.prependLiteral _
  | @reference name _ _ hname _ ih =>
    refine ⟨List.forall_mem_cons.mpr ⟨hname, ih.filled⟩, List.isChain_cons.mpr ⟨?_, ih.apart⟩⟩
    intro next _ hliterals
    exact hliterals.1

/-! ### Literal text -/

/-- Tokens among which no reference starts are literal text in front of the pieces behind them. -/
theorem ofTokens_append_of_not_mem {text : List Token} (htext : bare .opening ∉ text)
    (rest : List Token) : ofTokens (text ++ rest) = text.foldr prependLiteral (ofTokens rest) := by
  induction text with
  | nil => rfl
  | cons token text ih =>
    obtain ⟨htoken, hothers⟩ := List.ne_and_not_mem_of_not_mem_cons htext
    rw [List.cons_append, ofTokens_cons_of_ne (Ne.symm htoken), ih hothers, List.foldr_cons]

/-- Literal text in front of pieces that begin with none is a piece of its own. -/
theorem foldr_prependLiteral {text : List Token} (htext : text ≠ []) {pieces : List Piece}
    (hpieces : ∀ piece ∈ pieces.head?, ¬ piece.IsLiteral) :
    text.foldr prependLiteral pieces = literal text :: pieces := by
  induction text with
  | nil => contradiction
  | cons token text ih =>
    rw [List.foldr_cons]
    cases text with
    | nil =>
      rw [List.foldr_nil]
      unfold prependLiteral
      split
      · next tokens rest => exact absurd trivial (hpieces (literal tokens) rfl)
      · rfl
    | cons second text => rw [ih (List.cons_ne_nil _ _)]; rfl

/-- Literal text without a bare opening brace is one piece if no other literal text follows. -/
theorem ofTokens_append_of_literal {text rest : List Token} (htext : text ≠ [])
    (hopening : bare .opening ∉ text)
    (hrest : ∀ piece ∈ (ofTokens rest).head?, ¬ piece.IsLiteral) :
    ofTokens (text ++ rest) = literal text :: ofTokens rest := by
  rw [ofTokens_append_of_not_mem hopening, foldr_prependLiteral htext hrest]

/-- Pieces in normal form are read back from their tokens if no literal one of them could start a
reference. -/
theorem ofTokens_flatMap_tokens {pieces : List Piece} (hnormal : Normal pieces)
    (hopening : ∀ text, literal text ∈ pieces → bare .opening ∉ text) :
    ofTokens (pieces.flatMap tokens) = pieces := by
  induction pieces with
  | nil => rfl
  | cons piece pieces ih =>
    obtain ⟨hfilled, hothers⟩ := List.forall_mem_cons.mp hnormal.filled
    obtain ⟨hnext, hapart⟩ := List.isChain_cons.mp hnormal.apart
    have hrest := ih ⟨hothers, hapart⟩ fun text htext ↦ hopening text (List.mem_cons_of_mem _ htext)
    rw [List.flatMap_cons]
    cases piece with
    | literal text =>
      have hhead : ∀ piece ∈ (ofTokens (pieces.flatMap tokens)).head?, ¬ piece.IsLiteral := by
        rw [hrest]
        exact fun piece hpiece hliteral ↦ hnext piece hpiece ⟨trivial, hliteral⟩
      have hopening := hopening text List.mem_cons_self
      rw [tokens, ofTokens_append_of_literal hfilled hopening hhead, hrest]
    | reference name => rw [ofTokens_reference_append hfilled, hrest]

end Piece

end RecordTemplate
