import Mathlib.Order.Bounds.Basic
import RecordTemplate.Template

/-!
The search for the brace that closes a name, over the bytes of any byte string and from any offset
on. As it jumps from mark to mark, the closing braces at which it may still stop remain the same
(`closesFrom_behind_escape_iff`, `closesFrom_behind_backslash_iff`). So it stops at the first
closing brace without a backslash right before it, where a backslash before the start of the search
does not count (`findClosingBrace?_eq_some_iff`), and a search from behind an opening brace finds
nothing if one from an earlier opening brace has found nothing (`findClosingBrace?_eq_none_of_lt`).
A parser that makes no search any more once one has failed is therefore in the same states as one
that searches at every opening brace (`Parser.run_searchUnless`).
-/

set_option autoImplicit false
set_option relaxedAutoImplicit false

namespace RecordTemplate

/-! ### Marks -/

/-- One of some marks stands at an offset of a byte string. -/
def IsMarkAt (marks : List Char) (bytes : ByteArray) (offset : Nat) : Prop :=
  ∃ mark ∈ marks, bytes[offset]? = some mark.toUInt8

section Marks

variable {marks : List Char} {bytes : ByteArray} {finger next : Nat}

theorem isMarkAt_iff_any (hfinger : finger < bytes.size) :
    IsMarkAt marks bytes finger ↔ (marks.any fun mark ↦ bytes[finger] == mark.toUInt8) = true := by
  simp only [IsMarkAt, getElem?_pos bytes finger hfinger, List.any_eq_true, beq_iff_eq,
    Option.some.injEq]

theorem not_isMarkAt (hfinger : bytes.size ≤ finger) : ¬ IsMarkAt marks bytes finger := by
  rintro ⟨mark, -, hbyte⟩
  rw [getElem?_neg bytes finger (Nat.not_lt.mpr hfinger)] at hbyte
  contradiction

theorem not_isMarkAt_of_forall_lt {offset : Nat} (hfinger : finger ≤ offset)
    (hlt : ∀ next ∈ nextMark? marks bytes finger, offset < next) :
    ¬ IsMarkAt marks bytes offset := by
  unfold nextMark? ByteArray.findIdx? at hlt
  fun_induction ByteArray.findIdx?.loop bytes _ finger with
  | case1 finger hsize hmark =>
    exact absurd (hlt finger rfl) (Nat.not_lt.mpr hfinger)
  | case2 finger hsize hmark ih =>
    rcases Nat.lt_or_eq_of_le hfinger with hbehind | rfl
    · exact ih hbehind hlt
    · rwa [isMarkAt_iff_any hsize]
  | case3 finger hsize => exact not_isMarkAt (by omega)

/-- A jump to the next mark passes over none. -/
theorem not_isMarkAt_of_lt {offset : Nat} (hnext : nextMark? marks bytes finger = some next)
    (hfinger : finger ≤ offset) (hlt : offset < next) : ¬ IsMarkAt marks bytes offset := by
  refine not_isMarkAt_of_forall_lt hfinger fun other hother ↦ ?_
  rwa [← Option.some.inj (hnext.symm.trans hother)]

theorem not_isMarkAt_of_none {offset : Nat} (hnext : nextMark? marks bytes finger = none)
    (hfinger : finger ≤ offset) : ¬ IsMarkAt marks bytes offset := by
  refine not_isMarkAt_of_forall_lt hfinger fun other hother ↦ ?_
  rw [hnext] at hother
  contradiction

theorem isMarkAt_of_nextMark? (hnext : nextMark? marks bytes finger = some next) :
    IsMarkAt marks bytes next := by
  unfold nextMark? ByteArray.findIdx? at hnext
  fun_induction ByteArray.findIdx?.loop bytes _ finger with
  | case1 finger hfinger hmark =>
    obtain rfl := Option.some.inj hnext
    exact (isMarkAt_iff_any hfinger).mpr hmark
  | case2 finger hfinger hmark ih => exact ih hnext
  | case3 finger hfinger => contradiction

end Marks

theorem escapedBrace?_eq_some_iff {bytes : ByteArray} {backslash : Nat} {brace : Brace} :
    escapedBrace? bytes backslash = some brace ↔
      bytes[backslash + 1]? = some brace.char.toUInt8 := by
  have hne : '}'.toUInt8 ≠ '{'.toUInt8 := by decide
  unfold escapedBrace?
  split_ifs with hopening hclosing
  · cases brace <;> simp [hopening, Brace.char, hne.symm]
  · cases brace <;> simp [hclosing, Brace.char, hne]
  · cases brace <;> simp [hopening, hclosing, Brace.char]

/-! ### The search -/

/-- A closing brace at an offset of a byte string that a search from `start` on does not pass over:
no backslash stands right before it, or only one that the search does not see. -/
structure ClosesFrom (bytes : ByteArray) (start offset : Nat) : Prop where
  start_le : start ≤ offset
  closing : bytes[offset]? = some '}'.toUInt8
  not_escaped : ¬ (start < offset ∧ bytes[offset - 1]? = some '\\'.toUInt8)

section Search

variable {bytes : ByteArray} {finger next offset : Nat}

theorem ClosesFrom.isMarkAt (hcloses : ClosesFrom bytes finger offset) :
    IsMarkAt ['\\', '}'] bytes offset :=
  ⟨_, List.mem_cons_of_mem _ List.mem_cons_self, hcloses.closing⟩

/-- In front of the next backslash or closing brace there is nothing to stop at. -/
theorem ClosesFrom.le_of_nextMark? (hcloses : ClosesFrom bytes finger offset)
    (hnext : nextMark? ['\\', '}'] bytes finger = some next) : next ≤ offset := by
  by_contra hlt
  exact not_isMarkAt_of_lt hnext hcloses.start_le (Nat.lt_of_not_le hlt) hcloses.isMarkAt

/-- A backslash before a brace is passed together with the brace. -/
theorem closesFrom_behind_escape_iff {brace : Brace}
    (hnext : nextMark? ['\\', '}'] bytes finger = some next)
    (hbackslash : bytes[next]? = some '\\'.toUInt8)
    (hescaped : escapedBrace? bytes next = some brace) :
    ClosesFrom bytes finger offset ↔ ClosesFrom bytes (next + 2) offset := by
  have hfinger := (nextMark?_bounds hnext).1
  have hbrace := escapedBrace?_eq_some_iff.mp hescaped
  constructor
  · intro hcloses
    have hle := hcloses.le_of_nextMark? hnext
    obtain ⟨-, hclosing, hfree⟩ := hcloses
    have hbackslash_ne : offset ≠ next := by
      rintro rfl
      rw [hbackslash] at hclosing
      exact absurd hclosing (by decide)
    have hbrace_ne : offset ≠ next + 1 := by
      rintro rfl
      exact hfree ⟨by omega, hbackslash⟩
    exact ⟨by omega, hclosing, fun hbehind ↦ hfree ⟨by omega, hbehind.2⟩⟩
  · rintro ⟨hle, hclosing, hfree⟩
    refine ⟨by omega, hclosing, ?_⟩
    rintro ⟨-, hbefore⟩
    rcases Nat.lt_or_eq_of_le hle with hlt | rfl
    · exact hfree ⟨hlt, hbefore⟩
    · -- the byte before is the escaped brace
      rw [show next + 2 - 1 = next + 1 from rfl, hbrace] at hbefore
      cases brace <;> exact absurd hbefore (by decide)

/-- A backslash before anything else is passed alone. -/
theorem closesFrom_behind_backslash_iff
    (hnext : nextMark? ['\\', '}'] bytes finger = some next)
    (hbackslash : bytes[next]? = some '\\'.toUInt8) (hescaped : escapedBrace? bytes next = none) :
    ClosesFrom bytes finger offset ↔ ClosesFrom bytes (next + 1) offset := by
  have hfinger := (nextMark?_bounds hnext).1
  constructor
  · intro hcloses
    have hle := hcloses.le_of_nextMark? hnext
    obtain ⟨-, hclosing, hfree⟩ := hcloses
    have hne : offset ≠ next := by
      rintro rfl
      rw [hbackslash] at hclosing
      exact absurd hclosing (by decide)
    exact ⟨by omega, hclosing, fun hbehind ↦ hfree ⟨by omega, hbehind.2⟩⟩
  · rintro ⟨hle, hclosing, hfree⟩
    refine ⟨by omega, hclosing, ?_⟩
    rintro ⟨-, hbefore⟩
    rcases Nat.lt_or_eq_of_le hle with hlt | rfl
    · exact hfree ⟨hlt, hbefore⟩
    · -- a closing brace right behind the backslash would be escaped
      have hbrace : escapedBrace? bytes next = some .closing :=
        escapedBrace?_eq_some_iff.mpr hclosing
      rw [hescaped] at hbrace
      contradiction

/-- A closing brace at which a jump arrives is the first one to stop at. -/
theorem isLeast_closesFrom
    (hnext : nextMark? ['\\', '}'] bytes finger = some next)
    (hclosing : bytes[next]? = some '}'.toUInt8) :
    IsLeast {offset | ClosesFrom bytes finger offset} next := by
  refine ⟨⟨(nextMark?_bounds hnext).1, hclosing, ?_⟩, fun offset hcloses ↦
    hcloses.le_of_nextMark? hnext⟩
  rintro ⟨hlt, hbefore⟩
  have hpassed : ¬ IsMarkAt ['\\', '}'] bytes (next - 1) :=
    not_isMarkAt_of_lt hnext (by omega) (by omega)
  exact hpassed ⟨_, List.mem_cons_self, hbefore⟩

/-- What a search from an offset on has to answer. -/
def IsAnswer (bytes : ByteArray) (start : Nat) : Option Nat → Prop
  | some closing => IsLeast {offset | ClosesFrom bytes start offset} closing
  | none => ∀ offset, ¬ ClosesFrom bytes start offset

theorem isAnswer_congr {start : Nat}
    (hiff : ∀ offset, ClosesFrom bytes finger offset ↔ ClosesFrom bytes start offset)
    (answer : Option Nat) : IsAnswer bytes finger answer ↔ IsAnswer bytes start answer := by
  cases answer <;> simp only [IsAnswer, hiff]

/-- The byte at which a jump arrives is a backslash if it is no closing brace. -/
theorem eq_backslash_of_nextMark?
    (hnext : nextMark? ['\\', '}'] bytes finger = some next)
    (hclosing : ¬ bytes[next]? = some '}'.toUInt8) : bytes[next]? = some '\\'.toUInt8 := by
  obtain ⟨mark, hmark, hbyte⟩ := isMarkAt_of_nextMark? hnext
  rcases List.mem_cons.mp hmark with rfl | hmark
  · exact hbyte
  · obtain rfl := List.mem_singleton.mp hmark
    exact absurd hbyte hclosing

theorem isAnswer_findClosingBrace? (bytes : ByteArray) (start : Nat) :
    IsAnswer bytes start (findClosingBrace? bytes start) := by
  fun_induction findClosingBrace? bytes start with
  | case1 finger hfinger hnext =>
    intro offset hcloses
    exact not_isMarkAt_of_none hnext hcloses.start_le hcloses.isMarkAt
  | case2 finger hfinger next hnext hclosing => exact isLeast_closesFrom hnext hclosing
  | case3 finger hfinger next hnext hclosing brace hescaped ih =>
    have hbackslash := eq_backslash_of_nextMark? hnext hclosing
    rwa [isAnswer_congr fun offset ↦ closesFrom_behind_escape_iff hnext hbackslash hescaped]
  | case4 finger hfinger next hnext hclosing hescaped ih =>
    have hbackslash := eq_backslash_of_nextMark? hnext hclosing
    rwa [isAnswer_congr fun offset ↦ closesFrom_behind_backslash_iff hnext hbackslash hescaped]
  | case5 finger hfinger =>
    intro offset hcloses
    exact not_isMarkAt (by have := hcloses.start_le; omega) hcloses.isMarkAt

/-- A search finds nothing if it passes over every closing brace. -/
theorem findClosingBrace?_eq_none_iff {start : Nat} :
    findClosingBrace? bytes start = none ↔ ∀ offset, ¬ ClosesFrom bytes start offset := by
  have hanswer := isAnswer_findClosingBrace? bytes start
  cases hsearch : findClosingBrace? bytes start with
  | none =>
    rw [hsearch] at hanswer
    exact iff_of_true rfl hanswer
  | some closing =>
    rw [hsearch] at hanswer
    exact iff_of_false (Option.some_ne_none closing) fun hnone ↦ hnone closing hanswer.1

/-- A search stops at the first closing brace that it does not pass over. -/
theorem findClosingBrace?_eq_some_iff {start closing : Nat} :
    findClosingBrace? bytes start = some closing ↔
      IsLeast {offset | ClosesFrom bytes start offset} closing := by
  have hanswer := isAnswer_findClosingBrace? bytes start
  cases hsearch : findClosingBrace? bytes start with
  | none =>
    rw [hsearch] at hanswer
    exact iff_of_false (Option.some_ne_none closing).symm fun hleast ↦ hanswer closing hleast.1
  | some other =>
    rw [hsearch] at hanswer
    rw [Option.some.injEq]
    exact ⟨fun heq ↦ heq ▸ hanswer, hanswer.unique⟩

/-- Behind an opening brace a search finds no closing brace that one from an earlier opening brace
has passed over. -/
theorem findClosingBrace?_eq_none_of_lt {first second : Nat} (hlt : first < second)
    (hsecond : bytes[second]? = some '{'.toUInt8)
    (hnone : findClosingBrace? bytes (first + 1) = none) :
    findClosingBrace? bytes (second + 1) = none := by
  rw [findClosingBrace?_eq_none_iff] at hnone ⊢
  rintro offset ⟨hstart, hclosing, hescaped⟩
  refine hnone offset ⟨by omega, hclosing, ?_⟩
  rintro ⟨-, hbackslash⟩
  rcases Nat.lt_or_eq_of_le hstart with hbehind | rfl
  · exact hescaped ⟨hbehind, hbackslash⟩
  · -- the byte before is the brace where the later search starts
    rw [Nat.add_sub_cancel, hsecond] at hbackslash
    exact absurd hbackslash (by decide)

end Search

/-! ### Parsers with and without a memory -/

namespace Parser

variable {source : String} {bytes : ByteArray} {parser : Parser} {mark : Nat}

/-- What a parser has to remember: it knows an opening brace, before the offset that it has reached,
behind which a search has found nothing. -/
def HasFailed (bytes : ByteArray) (parser : Parser) : Prop :=
  ∃ opening < parser.finger, bytes[opening]? = some '{'.toUInt8 ∧
    findClosingBrace? bytes (opening + 1) = none

/-- A search that is left out because one has failed before would have failed as well. -/
theorem searchUnless_eq (hfailed : parser.unclosed = true → parser.HasFailed bytes)
    (hfinger : parser.finger ≤ mark) (hopening : bytes[mark]? = some '{'.toUInt8) :
    searchUnless bytes parser.unclosed (mark + 1) = findClosingBrace? bytes (mark + 1) := by
  unfold searchUnless
  split_ifs with hunclosed
  · obtain ⟨opening, hlt, -, hnone⟩ := hfailed hunclosed
    exact (findClosingBrace?_eq_none_of_lt (by omega) hopening hnone).symm
  · rfl

theorem readMark_searchUnless (hfailed : parser.unclosed = true → parser.HasFailed bytes)
    (hfinger : parser.finger ≤ mark) :
    parser.readMark (searchUnless bytes) source bytes mark =
      parser.readMark (fun _ ↦ findClosingBrace? bytes) source bytes mark := by
  unfold readMark
  split_ifs with hbackslash hopening
  · rfl
  · rw [searchUnless_eq hfailed hfinger hopening]
  · rfl

/-- A note that a search has failed is an old one, or the search has failed at this mark. -/
theorem unclosed_readMark (search : Bool → Nat → Option Nat)
    (hunclosed : (parser.readMark search source bytes mark).unclosed = true) :
    parser.unclosed = true ∨
      bytes[mark]? = some '{'.toUInt8 ∧ search parser.unclosed (mark + 1) = none := by
  grind [readMark, readLiteral, readReference, flushLiteral]

theorem hasFailed_readMark (hfailed : parser.unclosed = true → parser.HasFailed bytes)
    (hfinger : parser.finger ≤ mark)
    (hunclosed :
      (parser.readMark (fun _ ↦ findClosingBrace? bytes) source bytes mark).unclosed = true) :
    (parser.readMark (fun _ ↦ findClosingBrace? bytes) source bytes mark).HasFailed bytes := by
  have hlt := lt_finger_readMark (fun _ ↦ findClosingBrace? bytes) source bytes parser mark
  rcases unclosed_readMark _ hunclosed with hold | ⟨hopening, hnone⟩
  · obtain ⟨opening, hbefore, hsearch⟩ := hfailed hold
    exact ⟨opening, by omega, hsearch⟩
  · exact ⟨mark, hlt, hopening, hnone⟩

/-- A parser that makes no search any more once one has failed is always in the same state as one
that searches at every opening brace. -/
theorem run_searchUnless (hfailed : parser.unclosed = true → parser.HasFailed bytes) :
    parser.run (searchUnless bytes) source bytes =
      parser.run (fun _ ↦ findClosingBrace? bytes) source bytes := by
  fun_induction run (searchUnless bytes) source bytes parser with
  | case1 parser hsize hmark => rw [run_of_none hsize hmark]
  | case2 parser hsize mark hmark ih =>
    have hbounds := nextMark?_bounds hmark
    have hread : (parser.readUpTo source mark).unclosed = true →
        (parser.readUpTo source mark).HasFailed bytes := by
      intro hunclosed
      obtain ⟨opening, hlt, hsearch⟩ := hfailed hunclosed
      exact ⟨opening, Nat.lt_of_lt_of_le hlt hbounds.1, hsearch⟩
    have hstep : (parser.readUpTo source mark).readMark (searchUnless bytes) source bytes mark =
        (parser.readUpTo source mark).readMark (fun _ ↦ findClosingBrace? bytes) source bytes
          mark := readMark_searchUnless hread (Nat.le_refl mark)
    rw [run_of_some hmark, ← hstep]
    refine ih fun hunclosed ↦ ?_
    rw [hstep] at hunclosed ⊢
    exact hasFailed_readMark hread (Nat.le_refl mark) hunclosed
  | case3 parser hsize => rw [run_of_size_le hsize]

end Parser

/-- The segments of a source are those that a parser finds which searches at every opening brace. -/
theorem Template.segments_parse_eq_segmentsBy (source : String) :
    (parse source).segments =
      segmentsBy (fun _ ↦ findClosingBrace? source.toByteArray) source source.toByteArray := by
  have hrun : Parser.start.run (searchUnless source.toByteArray) source source.toByteArray =
      Parser.start.run (fun _ ↦ findClosingBrace? source.toByteArray) source source.toByteArray :=
    Parser.run_searchUnless fun hunclosed ↦ absurd hunclosed Bool.false_ne_true
  rw [parse, segmentsBy, segmentsBy, hrun]

/-- A search finds the first closing brace that it does not pass over, if there is one, and behind
an opening brace it finds none if one from an earlier opening brace has found none. A source has the
segments that a parser finds which searches at every opening brace. -/
theorem findClosingBrace?_finds_first (bytes : ByteArray) (start : Nat) :
    (∀ offset, findClosingBrace? bytes start = some offset ↔
        IsLeast {offset | ClosesFrom bytes start offset} offset) ∧
      (findClosingBrace? bytes start = none ↔ ∀ offset, ¬ ClosesFrom bytes start offset) ∧
      (∀ first second, first < second → bytes[first]? = some '{'.toUInt8 →
        bytes[second]? = some '{'.toUInt8 → findClosingBrace? bytes (first + 1) = none →
          findClosingBrace? bytes (second + 1) = none) ∧
      ∀ source, (Template.parse source).segments =
        segmentsBy (fun _ ↦ findClosingBrace? source.toByteArray) source source.toByteArray := by
  refine ⟨fun offset ↦ findClosingBrace?_eq_some_iff, findClosingBrace?_eq_none_iff, ?_,
    Template.segments_parse_eq_segmentsBy⟩
  intro first second hlt _ hsecond hnone
  exact findClosingBrace?_eq_none_of_lt hlt hsecond hnone

/-- The only closing brace is escaped. -/
theorem findClosingBrace?_finds_first_escaped :
    findClosingBrace? "\x7b\\\x7d\x7ba".toByteArray 1 = none ∧
      findClosingBrace? "\x7b\\\x7d\x7ba".toByteArray 4 = none := by
  obtain ⟨-, -, hlater, -⟩ := findClosingBrace?_finds_first "\x7b\\\x7d\x7ba".toByteArray 0
  have hnone : findClosingBrace? "\x7b\\\x7d\x7ba".toByteArray 1 = none := by decide +kernel
  exact ⟨hnone, hlater 0 3 (by decide) (by decide) (by decide) hnone⟩

end RecordTemplate
