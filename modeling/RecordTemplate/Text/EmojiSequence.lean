import RecordTemplate.Text.WidthClasses

/-!
Emoji of several characters: a base with a skin tone, a flag of two regional indicators, a flag
spelled in tags, a keycap, and emoji with a joiner between them. A text is read from its end, so an
`EmojiSequence` is the last part of such an emoji, and `EmojiSequence.extend?` reads the character
before that part.
-/

set_option autoImplicit false
set_option relaxedAutoImplicit false

namespace RecordTemplate.Text

/-- The last part of an emoji that the character before it may continue. In a joined part the
first character is followed by a joiner and an emoji. -/
inductive EmojiSequence
  | emoji
  | modifier
  | indicator
  /-- Two or more regional indicators. -/
  | indicators
  /-- Nothing but the joiner and the emoji. -/
  | joined
  | joinedKeycap
  | joinedIndicator
  /-- Two or more regional indicators, and whether their number is even. -/
  | joinedIndicators (even : Bool)
  /-- As many tag letters, closed by the end tag. -/
  | joinedLetters (count : Nat)
  /-- As many tag digits, followed by at most four tag letters and the end tag. -/
  | joinedDigits (count : Nat)
  deriving DecidableEq, Repr

namespace EmojiSequence

/-! ### Characters -/

/-- The skin tones, which are emoji of their own if they follow no suitable emoji. -/
def isModifier (c : Char) : Bool :=
  0x1F3FB ≤ c.toNat && c.toNat ≤ 0x1F3FF

/-- The regional indicators, two of which name a flag. -/
def isIndicator (c : Char) : Bool :=
  0x1F1E6 ≤ c.toNat && c.toNat ≤ 0x1F1FF

def isTagLetter (c : Char) : Bool :=
  0xE0061 ≤ c.toNat && c.toNat ≤ 0xE007A

def isTagDigit (c : Char) : Bool :=
  0xE0030 ≤ c.toNat && c.toNat ≤ 0xE0039

/-- The sequence that a character may be the end of. -/
def ofChar? (c : Char) : Option EmojiSequence :=
  if isModifier c then some .modifier
  else if isIndicator c then some .indicator
  else if Width.emoji.contains c then some .emoji
  else none

/-- Whether a form as emoji before the sequence becomes a part of it. -/
def takesForm : EmojiSequence → Bool
  | .joined | .joinedKeycap => true
  | _ => false

/-! ### Extension to the left -/

/-- The columns that a character adds to an emoji that it belongs to, and the emoji that may go on
before it. Of an even number of joined indicators the last two are a flag, and the emoji takes its
place; of an odd number the last is no flag, and all keep their columns. The region of a flag
spelled in tags has three to six letters, or three digits and at most four letters. -/
def extend? (sequence : EmojiSequence) (c : Char) : Option (Int × EmojiSequence) :=
  match sequence with
  | .emoji => if c = Width.joiner then some (0, .joined) else none
  | .modifier =>
    if c = Width.joiner then some (0, .joined)
    else if Width.modifierBases.contains c then some (0, .emoji)
    else none
  | .indicator => if isIndicator c then some (1, .indicators) else none
  | .indicators =>
    if c = Width.joiner then some (0, .joined)
    else if isIndicator c then some (1, .indicators)
    else none
  | .joined =>
    if c.toNat = 0x20E3 then some (0, .joinedKeycap)
    else if isIndicator c then some (1, .joinedIndicator)
    else if isModifier c then some (0, .modifier)
    else if c.toNat = 0xE007F then some (0, .joinedLetters 0)
    else if Width.emoji.contains c then some (0, .emoji)
    else none
  | .joinedKeycap => none
  | .joinedIndicator => if isIndicator c then some (-1, .joinedIndicators true) else none
  | .joinedIndicators even =>
    if c = Width.joiner then some (0, .joined)
    else if isIndicator c then some (if even then 3 else -1, .joinedIndicators !even)
    else none
  | .joinedLetters count =>
    if isTagLetter c && count < 6 then some (0, .joinedLetters (count + 1))
    else if isTagDigit c && count ≤ 4 then some (0, .joinedDigits 1)
    else if c.toNat = 0x1F3F4 && 3 ≤ count then some (0, .emoji)
    else none
  | .joinedDigits count =>
    if isTagDigit c && count < 3 then some (0, .joinedDigits (count + 1))
    else if c.toNat = 0x1F3F4 && count = 3 then some (0, .emoji)
    else none

end EmojiSequence

end RecordTemplate.Text
