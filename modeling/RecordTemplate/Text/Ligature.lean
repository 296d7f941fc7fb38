import RecordTemplate.Text.WidthClasses

/-!
Signs of several letters that take fewer columns than their letters do: the Arabic Lam with an
Alef, the subscripts of Khmer, the tone letters of Lisu, and the pairs that are written with a
joiner in Buginese, Hebrew, Old Turkic and Tifinagh. A text is read from its end, so a `Ligature`
is the last part of such a sign, and `Ligature.extend?` reads the character before that part.
-/

set_option autoImplicit false
set_option relaxedAutoImplicit false

namespace RecordTemplate.Text

/-- The last part of a sign that the character before it may continue. -/
inductive Ligature
  /-- An Arabic Alef. -/
  | alef
  /-- The Hebrew Lamed, and whether a joiner stands before it. -/
  | lamed (joined : Bool)
  /-- A Khmer letter whose subscript takes no column. -/
  | khmer
  /-- The Buginese Ya, and whether a joiner stands before it. -/
  | ya (joined : Bool)
  /-- The Buginese vowel I, a joiner and the Ya. -/
  | vowelYa
  /-- A Tifinagh consonant, and whether a joiner stands before it. -/
  | tifinagh (joined : Bool)
  /-- The Tifinagh consonant joiner and a consonant. -/
  | tifinaghPair
  /-- A Lisu tone letter that another one may stand before. -/
  | lisuTone
  /-- The Old Turkic I, and whether a joiner stands before it. -/
  | oldTurkicI (joined : Bool)
  deriving DecidableEq, Repr

namespace Ligature

/-! ### Letters -/

def isAlef : Char → Bool :=
  CharRanges.contains [(0x622, 0x623), (0x625, 0x625), (0x627, 0x627), (0x671, 0x673),
    (0x675, 0x675), (0x773, 0x774), (0x870, 0x882)]

/-- The Arabic letters that merge with an Alef behind them. -/
def isLam : Char → Bool :=
  CharRanges.contains [(0x644, 0x644), (0x6B5, 0x6B8), (0x76A, 0x76A), (0x8A6, 0x8A6),
    (0x8C7, 0x8C7)]

/-- The Khmer letters whose subscripts stand wholly below the letter before them. -/
def hasNarrowSubscript : Char → Bool :=
  CharRanges.contains [(0x1780, 0x1782), (0x1784, 0x1787), (0x1789, 0x178C), (0x178E, 0x1793),
    (0x1795, 0x1798), (0x179B, 0x179D), (0x17A0, 0x17A0), (0x17A2, 0x17A2), (0x17A7, 0x17A7),
    (0x17AB, 0x17AC), (0x17AF, 0x17AF)]

def isTifinaghConsonant : Char → Bool :=
  CharRanges.contains [(0x2D31, 0x2D65), (0x2D6F, 0x2D6F)]

/-- The sign that a letter may be the end of. Every such letter takes one column. -/
def ofLetter? (c : Char) : Option Ligature :=
  if isAlef c then some .alef
  else if c.toNat = 0x5DC then some (.lamed false)
  else if hasNarrowSubscript c then some .khmer
  else if c.toNat = 0x1A10 then some (.ya false)
  else if isTifinaghConsonant c then some (.tifinagh false)
  else if c.toNat = 0xA4FC || c.toNat = 0xA4FD then some .lisuTone
  else if c.toNat = 0x10C03 then some (.oldTurkicI false)
  else none

/-! ### Extension to the left -/

/-- What a joiner makes of a sign. Arabic letters do not merge across it. -/
def join? : Ligature → Option Ligature
  | .alef => none
  | .lamed _ => some (.lamed true)
  | .ya _ => some (.ya true)
  | .tifinagh _ => some (.tifinagh true)
  | .oldTurkicI _ => some (.oldTurkicI true)
  | sign => some sign

/-- Whether a sign may go on before a character as if the character were not there. -/
def passes : Ligature → Char → Bool
  | .alef, c => Width.zeroWidth.contains c && !Width.joinBreaking.contains c
  | _, c => Width.ignorableMarks.contains c

/-- The columns that a letter adds when it continues a sign, and the sign that may go on before
it. Of a subscript, and of a Tifinagh consonant before the joiner of its script, the column that
was counted is taken back. -/
def merge? (sign : Ligature) (c : Char) : Option (Int × Option Ligature) :=
  match sign with
  | .alef => if isLam c then some (0, none) else none
  | .lamed true => if c.toNat = 0x5D0 then some (0, none) else none
  | .khmer => if c.toNat = 0x17D2 then some (-1, none) else none
  | .ya true => if c.toNat = 0x1A17 then some (0, some .vowelYa) else none
  | .vowelYa => if c.toNat = 0x1A15 then some (0, none) else none
  | .tifinagh joined =>
    if c.toNat = 0x2D7F then some (1, some .tifinaghPair)
    else if joined && isTifinaghConsonant c then some (0, none)
    else none
  | .tifinaghPair => if isTifinaghConsonant c then some (-1, none) else none
  | .lisuTone => if 0xA4F8 ≤ c.toNat && c.toNat ≤ 0xA4FB then some (0, none) else none
  | .oldTurkicI true => if c.toNat = 0x10C32 then some (0, none) else none
  | .lamed false | .ya false | .oldTurkicI false => none

/-- The columns that a character adds to a sign that it belongs to, and the sign that may go on
before it. -/
def extend? (sign : Ligature) (c : Char) : Option (Int × Option Ligature) :=
  if c = Width.joiner then sign.join?.map fun joined ↦ (0, some joined)
  else if sign.passes c then some (0, some sign)
  else sign.merge? c

end Ligature

end RecordTemplate.Text
