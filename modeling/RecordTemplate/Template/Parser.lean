import RecordTemplate.Brace
import RecordTemplate.Template.Segment

/-!
Reading a template source. A parser goes over the bytes of the source, from one backslash or brace
to the next. A backslash right before a brace is dropped with the brace taken literally, an opening
brace starts a reference if a search finds the brace that closes it (`findClosingBrace?`) and the
name in between is not empty, and everything else is literal text. The marks are ASCII characters,
so every offset at which the parser stops is a boundary between characters.

A parser remembers that a search has failed (`Parser.unclosed`), and `searchUnless` makes none then,
which keeps the number of steps linear in the size of the source.
-/

set_option autoImplicit false
set_option relaxedAutoImplicit false

namespace RecordTemplate

/-! ### Searching bytes -/

/-- The offset of the first byte at or behind an offset that is one of some ASCII characters. -/
def nextMark? (marks : List Char) (bytes : ByteArray) (finger : Nat) : Option Nat :=
  bytes.findIdx? (fun byte ↦ marks.any fun mark ↦ byte == mark.toUInt8) finger

theorem le_of_findIdx?_loop {bytes : ByteArray} {isMark : UInt8 → Bool} {finger next : Nat}
    (hnext : ByteArray.findIdx?.loop bytes isMark finger = some next) :
    finger ≤ next ∧ next < bytes.size := by
  fun_induction ByteArray.findIdx?.loop bytes isMark finger with
  | case1 finger hfinger hmark =>
    obtain rfl := Option.some.inj hnext
    exact ⟨Nat.le_refl _, hfinger⟩
  | case2 finger hfinger hmark ih =>
    obtain ⟨hle, hlt⟩ := ih hnext
    exact ⟨by omega, hlt⟩
  | case3 finger hfinger => contradiction

theorem nextMark?_bounds {marks : List Char} {bytes : ByteArray} {finger next : Nat}
    (hnext : nextMark? marks bytes finger = some next) : finger ≤ next ∧ next < bytes.size :=
  le_of_findIdx?_loop hnext

/-- The brace that a backslash at an offset escapes. -/
def escapedBrace? (bytes : ByteArray) (backslash : Nat) : Option Brace :=
  if bytes[backslash + 1]? = some '{'.toUInt8 then some .opening
  else if bytes[backslash + 1]? = some '}'.toUInt8 then some .closing
  else none

/-- The offset of the first closing brace at or behind an offset that is not escaped. What stands
before the offset where a search starts escapes nothing. -/
def findClosingBrace? (bytes : ByteArray) (finger : Nat) : Option Nat :=
  if finger < bytes.size then
    match _hnext : nextMark? ['\\', '}'] bytes finger with
    | none => none
    | some next =>
      if bytes[next]? = some '}'.toUInt8 then some next
      else
        match escapedBrace? bytes next with
        | some _ => findClosingBrace? bytes (next + 2)
        | none => findClosingBrace? bytes (next + 1)
  else none
termination_by bytes.size - finger
decreasing_by
  all_goals
    obtain ⟨hle, hlt⟩ := nextMark?_bounds _hnext
    omega

/-! ### Parsers -/

/-- The finished segments of a source, the literal text since the last reference with the offset
where it starts, and the offset up to which the source has been read. -/
structure Parser where
  segments : Array Segment
  literal : String
  literalStart : Nat
  /-- An opening brace has no closing brace behind it, and so no later one has. -/
  unclosed : Bool
  finger : Nat

namespace Parser

def start : Parser := ⟨#[], "", 0, false, 0⟩

/-- More literal text, with the source read up to an offset. -/
def readLiteral (parser : Parser) (text : String) (finger : Nat) : Parser :=
  { parser with literal := parser.literal ++ text, finger := finger }

/-- The source up to an offset is literal text. -/
def readUpTo (parser : Parser) (source : String) (stop : Nat) : Parser :=
  parser.readLiteral (Text.slice source ⟨parser.finger, stop⟩) stop

/-- The collected literal text becomes a segment that ends at an offset, unless it is empty. -/
def flushLiteral (parser : Parser) (stop : Nat) : Parser :=
  if parser.literal.isEmpty then parser
  else
    { parser with
      segments :=
        parser.segments.push ⟨.constant parser.literal, ⟨parser.literalStart, stop⟩⟩
      literal := "" }

/-- A reference becomes a segment, and literal text starts again behind its closing brace. -/
def readReference (parser : Parser) (source : String) (name : ByteRange) : Parser :=
  let raw := (Text.slice source name).toList
  { parser with
    segments := parser.segments.push ⟨.reference (String.ofList (unescapeBraces raw)), name⟩
    literalStart := name.stop + 1
    finger := name.stop + 1 }

/-- The backslash or brace at an offset, and what comes with it: the brace that a backslash escapes,
or the rest of the reference that an opening brace starts. -/
def readMark (search : Bool → Nat → Option Nat) (source : String) (bytes : ByteArray)
    (parser : Parser) (mark : Nat) : Parser :=
  if bytes[mark]? = some '\\'.toUInt8 then
    match escapedBrace? bytes mark with
    | some brace => parser.readLiteral brace.char.toString (mark + 2)
    | none => parser.readLiteral '\\'.toString (mark + 1)
  else if bytes[mark]? = some '{'.toUInt8 then
    match search parser.unclosed (mark + 1) with
    | some stop =>
      -- an empty name is not a reference
      if mark + 1 < stop then (parser.flushLiteral mark).readReference source ⟨mark + 1, stop⟩
      else parser.readLiteral '{'.toString (mark + 1)
    | none => { parser.readLiteral '{'.toString (mark + 1) with unclosed := true }
  else parser.readLiteral '}'.toString (mark + 1)

theorem lt_finger_readMark (search : Bool → Nat → Option Nat) (source : String)
    (bytes : ByteArray) (parser : Parser) (mark : Nat) :
    mark < (parser.readMark search source bytes mark).finger := by
  grind [readMark, readLiteral, readReference]

/-- The whole source, with a search for closing braces that is told whether one has failed
before. -/
def run (search : Bool → Nat → Option Nat) (source : String) (bytes : ByteArray)
    (parser : Parser) : Parser :=
  if parser.finger < bytes.size then
    match _hmark : nextMark? ['\\', '{', '}'] bytes parser.finger with
    | none => parser.readUpTo source bytes.size
    | some mark =>
      run search source bytes ((parser.readUpTo source mark).readMark search source bytes mark)
  else parser
termination_by bytes.size - parser.finger
decreasing_by
  have hbounds := nextMark?_bounds _hmark
  have hlt := lt_finger_readMark search source bytes (parser.readUpTo source mark) mark
  omega

section Run

variable {search : Bool → Nat → Option Nat} {source : String} {bytes : ByteArray}
  {parser : Parser}

theorem run_of_none (hsize : parser.finger < bytes.size)
    (hmark : nextMark? ['\\', '{', '}'] bytes parser.finger = none) :
    parser.run search source bytes = parser.readUpTo source bytes.size := by
  rw [run, if_pos hsize]
  split
  · rfl
  · next mark hsome => exact absurd (hmark.symm.trans hsome) (Option.some_ne_none mark).symm

theorem run_of_some {mark : Nat}
    (hmark : nextMark? ['\\', '{', '}'] bytes parser.finger = some mark) :
    parser.run search source bytes =
      ((parser.readUpTo source mark).readMark search source bytes mark).run search source
        bytes := by
  have hbounds := nextMark?_bounds hmark
  rw [run, if_pos (by omega)]
  split
  · next hnone => exact absurd (hnone.symm.trans hmark) (Option.some_ne_none mark).symm
  · next other hother => rw [Option.some.inj (hother.symm.trans hmark)]

theorem run_of_size_le (hsize : ¬ parser.finger < bytes.size) :
    parser.run search source bytes = parser := by
  rw [run, if_neg hsize]

end Run

end Parser

/-- The segments of a source for a parser that uses a search for closing braces. -/
def segmentsBy (search : Bool → Nat → Option Nat) (source : String) (bytes : ByteArray) :
    List Segment :=
  ((Parser.start.run search source bytes).flushLiteral bytes.size).segments.toList

/-- A search for a closing brace that is left out if one has failed before. -/
def searchUnless (bytes : ByteArray) (unclosed : Bool) (start : Nat) : Option Nat :=
  if unclosed then none else findClosingBrace? bytes start

end RecordTemplate
