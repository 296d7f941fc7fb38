import RecordTemplate.Text.EmojiSequence
import RecordTemplate.Text.Ligature

/-!
The display width of a text: the number of columns that it takes in a terminal with narrow
East Asian ambiguous characters. Most characters have a width of their own (`charWidth`). Some
merge with the characters behind them into a `Ligature` or an `EmojiSequence`, and a selector gives
the character before it the form of text or of an emoji. A text is therefore measured from its
end, and each character sees what it may merge with as a `Context`.

Every character up to U+00A0 takes one column, control characters included.
-/

set_option autoImplicit false
set_option relaxedAutoImplicit false

namespace RecordTemplate.Text

namespace Width

/-! ### Single characters -/

/-- Asks for the form of the character before it as text. -/
def textSelector : Char := '\ufe0e'

/-- Asks for the form of the character before it as emoji. -/
def emojiSelector : Char := '\ufe0f'

/-- The number of columns that a character takes on its own. -/
def charWidth (c : Char) : Nat :=
  if c.toNat ≤ 0xA0 then 1
  else if zeroWidth.contains c then 0
  else if c.toNat = 0x17D8 then 3
  else if wide.contains c || emoji.contains c || EmojiSequence.isModifier c then 2
  else 1

/-! ### What stands behind a character -/

/-- What a character may continue. -/
inductive Follower
  | plain
  | emoji (sequence : EmojiSequence)
  | ligature (sign : Ligature)
  deriving DecidableEq, Repr

/-- The form that a selector asks for. -/
inductive Form
  | text
  | emoji
  deriving DecidableEq, Repr

/-- What stands right behind a character: a selector, if there is one, and what the character may
continue across it. -/
structure Context where
  form : Option Form := none
  follower : Follower := .plain
  deriving DecidableEq, Repr

namespace Follower

/-- What a character that continues nothing is to the character before it. -/
def ofChar (c : Char) : Follower :=
  if c.toNat ≤ 0xA0 then .plain
  else
    match EmojiSequence.ofChar? c with
    | some sequence => .emoji sequence
    | none => (Ligature.ofLetter? c).elim .plain .ligature

/-- What may be continued across a selector: every ligature, and across the emoji selector those
emoji that a form as emoji may become a part of. -/
def behindSelector (form : Form) : Follower → Follower
  | .plain => .plain
  | .ligature sign => .ligature sign
  | .emoji sequence =>
    if form = .emoji && sequence.takesForm then .emoji sequence else .plain

/-- The columns that a character adds to what it continues, or its own if it continues nothing,
and what it is to the character before it. -/
def extend (follower : Follower) (c : Char) : Int × Follower :=
  let alone : Int × Follower := (charWidth c, ofChar c)
  match follower with
  | .plain => alone
  | .emoji sequence =>
    match sequence.extend? c with
    | some (columns, longer) => (columns, .emoji longer)
    | none => alone
  | .ligature sign =>
    match sign.extend? c with
    | some (columns, longer) => (columns, longer.elim .plain .ligature)
    | none => alone

end Follower

/-- What a character may continue if the selector behind it does not concern it. Only a ligature
goes on across such a selector. -/
def Context.unselected (context : Context) : Follower :=
  match context.form, context.follower with
  | none, follower => follower
  | some _, .ligature sign => .ligature sign
  | some _, _ => .plain

/-- Whether a form as emoji becomes a part of the emoji behind the selector. -/
def Context.takesForm (context : Context) : Bool :=
  match context.follower with
  | .emoji sequence => sequence.takesForm
  | _ => false

/-- The columns that a character adds to the text behind it, and the context for the text before
it. -/
def measure (c : Char) (context : Context) : Int × Context :=
  let follower := context.unselected
  if context.form = some .emoji && emojiVariants.contains c then
    (if context.takesForm then 0 else 2, ⟨none, .emoji .emoji⟩)
  else if c.toNat ≤ 0xA0 then (1, ⟨none, .plain⟩)
  else if c = emojiSelector then (0, ⟨some .emoji, follower.behindSelector .emoji⟩)
  else if c = textSelector then (0, ⟨some .text, follower.behindSelector .text⟩)
  else if context.form = some .text && textVariants.contains c then (1, ⟨none, .plain⟩)
  else
    let (columns, longer) := follower.extend c
    (columns, ⟨none, longer⟩)

end Width

/-- The number of columns that a text takes. The sum is never negative: a column is only taken
back for a character that has been counted right behind. -/
def width (text : List Char) : Nat :=
  (text.foldr (fun c (columns, context) ↦
    let (added, context) := Width.measure c context
    (columns + added, context)) ((0 : Int), ({} : Width.Context))).1.toNat

end RecordTemplate.Text
