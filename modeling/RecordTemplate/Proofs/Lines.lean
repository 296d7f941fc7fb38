import Mathlib.Data.List.DropRight
import RecordTemplate.Text.Line

/-!
The lines of a text as stretches of it. No line break stands in a line, and on each side of it there
is a line break or an end of the text (`Line.IsOf`). The line at an offset is the one whose
characters reach from the offset or before it up to the offset or behind it, and there is no other
(`lineAt?_eq_some_iff`). Behind the end of the text there is none (`lineAt?_eq_none_iff`).
-/

set_option autoImplicit false
set_option relaxedAutoImplicit false

namespace RecordTemplate.Text

/-! ### Stretches without a line break -/

/-- No line break stands in a text. -/
def IsUnbroken (text : List Char) : Prop :=
  ∀ c ∈ text, ¬ isLineBreak c

/-- A line may start behind a text: the text is empty, or it ends in a line break. -/
def EndsLine (text : List Char) : Prop :=
  ∀ c ∈ text.getLast?, isLineBreak c

/-- A line may end before a text: the text is empty, or it begins with a line break. -/
def StartsBreak (text : List Char) : Prop :=
  ∀ c ∈ text.head?, isLineBreak c

/-- The part of a text before its first line break. -/
def firstLine (text : List Char) : List Char :=
  text.takeWhile fun c ↦ !isLineBreak c

instance (text : List Char) : Decidable (IsUnbroken text) :=
  List.decidableBAll _ text

theorem isUnbroken_append_iff {first second : List Char} :
    IsUnbroken (first ++ second) ↔ IsUnbroken first ∧ IsUnbroken second :=
  List.forall_mem_append

theorem isUnbroken_firstLine (text : List Char) : IsUnbroken (firstLine text) := by
  intro c hc
  simpa using List.mem_takeWhile_imp hc

theorem utf8Size_of_isLineBreak {c : Char} (hc : isLineBreak c) : c.utf8Size = 1 := by
  simp only [isLineBreak, Bool.or_eq_true, beq_iff_eq] at hc
  rcases hc with rfl | rfl <;> rfl

/-- A text goes on behind its first line with a line break, or not at all. -/
theorem exists_firstLine_append (text : List Char) :
    ∃ rest, text = firstLine text ++ rest ∧ StartsBreak rest := by
  refine ⟨text.dropWhile fun c ↦ !isLineBreak c, List.takeWhile_append_dropWhile.symm, ?_⟩
  intro c hc
  have hbreak := List.head?_dropWhile_not (fun c ↦ !isLineBreak c) text
  rw [Option.mem_def.mp hc] at hbreak
  simpa using hbreak

theorem firstLine_append {line : List Char} (hline : IsUnbroken line) (rest : List Char) :
    firstLine (line ++ rest) = line ++ firstLine rest :=
  List.takeWhile_append_of_pos fun c hc ↦ by simpa using hline c hc

theorem firstLine_of_isUnbroken {line : List Char} (hline : IsUnbroken line) :
    firstLine line = line :=
  List.takeWhile_eq_self_iff.mpr fun c hc ↦ by simpa using hline c hc

theorem firstLine_of_startsBreak {text : List Char} (htext : StartsBreak text) :
    firstLine text = [] := by
  cases text with
  | nil => rfl
  | cons c text =>
    have hc : isLineBreak c := htext c rfl
    simp [firstLine, hc]

theorem firstLine_append_of_startsBreak {line rest : List Char} (hline : IsUnbroken line)
    (hrest : StartsBreak rest) : firstLine (line ++ rest) = line := by
  rw [firstLine_append hline, firstLine_of_startsBreak hrest, List.append_nil]

/-- What stands before a line has a break at its end, or is nothing. -/
theorem eq_nil_of_isUnbroken {before : List Char} (hbefore : EndsLine before)
    (hunbroken : IsUnbroken before) : before = [] := by
  by_contra hne
  have hlast := List.getLast?_eq_some_getLast hne
  exact hunbroken _ (List.mem_of_getLast? hlast) (hbefore _ hlast)

/-- A line may start behind a break, and behind what stands there if it may start behind that. -/
theorem endsLine_append_cons {c : Char} (hc : isLineBreak c) (first before : List Char) :
    EndsLine (first ++ c :: before) ↔ EndsLine before := by
  rw [EndsLine, EndsLine, List.getLast?_append, List.getLast?_cons, Option.some_or]
  cases before.getLast? with
  | none => simpa using hc
  | some d => simp

/-- A line break ends the first line, whatever stands behind it. -/
theorem firstLine_append_of_not_isUnbroken {text : List Char} (htext : ¬ IsUnbroken text)
    (rest : List Char) : firstLine (text ++ rest) = firstLine text := by
  obtain ⟨behind, hbehind, hbreak⟩ := exists_firstLine_append text
  have hline := isUnbroken_firstLine text
  cases behind with
  | nil =>
    rw [List.append_nil] at hbehind
    exact absurd (hbehind ▸ hline) htext
  | cons c behind =>
    have hempty : firstLine (c :: (behind ++ rest)) = [] := firstLine_of_startsBreak hbreak
    conv_lhs => rw [hbehind]
    rw [List.append_assoc, firstLine_append hline, List.cons_append, hempty, List.append_nil]

/-- The last line of a text starts behind a line break or with the text. -/
theorem exists_append_lastLine (text : List Char) :
    ∃ passed begun, text = passed ++ begun ∧ EndsLine passed ∧ IsUnbroken begun := by
  induction text using List.reverseRecOn with
  | nil => exact ⟨[], [], rfl, by simp [EndsLine], by simp [IsUnbroken]⟩
  | append_singleton text c ih =>
    by_cases hc : isLineBreak c
    · exact ⟨text ++ [c], [], (List.append_nil _).symm, by simpa [EndsLine] using hc,
        by simp [IsUnbroken]⟩
    · obtain ⟨passed, begun, rfl, hpassed, hbegun⟩ := ih
      refine ⟨passed, begun ++ [c], List.append_assoc _ _ _, hpassed, ?_⟩
      exact isUnbroken_append_iff.mpr ⟨hbegun, by simpa [IsUnbroken] using hc⟩

/-! ### The list of lines -/

theorem lines_ne_nil (text : List Char) : lines text ≠ [] := by
  cases text with
  | nil => exact List.cons_ne_nil _ _
  | cons c text =>
    rw [lines, List.foldr_cons]
    split
    · split <;> exact List.cons_ne_nil _ _
    · exact List.cons_ne_nil _ _

theorem lines_cons_of_break {c : Char} (hc : isLineBreak c) (text : List Char) :
    lines (c :: text) = [] :: lines text := by
  obtain ⟨line, rest, hlines⟩ := List.exists_cons_of_ne_nil (lines_ne_nil text)
  rw [hlines]
  rw [lines] at hlines ⊢
  simp only [List.foldr_cons, hlines, hc, if_true]

theorem lines_cons_of_not_break {c : Char} (hc : ¬ isLineBreak c) {text line : List Char}
    {rest : List (List Char)} (hlines : lines text = line :: rest) :
    lines (c :: text) = (c :: line) :: rest := by
  rw [lines] at hlines ⊢
  simp only [List.foldr_cons, hlines, hc, if_false, Bool.false_eq_true]

/-- The other lines of a text are those of what stands behind its first break. -/
theorem lines_append {first rest : List Char} (hfirst : IsUnbroken first)
    (hrest : StartsBreak rest) :
    lines (first ++ rest) = first :: if rest = [] then [] else lines rest.tail := by
  induction first with
  | nil =>
    cases rest with
    | nil => rfl
    | cons c behind => exact lines_cons_of_break (hrest c rfl) behind
  | cons c first ih =>
    obtain ⟨hc, hothers⟩ := List.forall_mem_cons.mp hfirst
    exact lines_cons_of_not_break hc (ih hothers)

/-! ### Lines as stretches -/

/-- A line as a stretch of a text that starts at an offset, from one line break or end of the text
up to the next. -/
def Line.IsOf (start : Nat) (text : List Char) (line : Line) : Prop :=
  ∃ before after, text = before ++ line.text ++ after ∧ line.start = start + byteSize before ∧
    IsUnbroken line.text ∧ EndsLine before ∧ StartsBreak after

namespace Line

variable {start : Nat} {line : Line}

theorem IsOf.start_le {text : List Char} (hline : line.IsOf start text) : start ≤ line.start := by
  obtain ⟨before, -, -, hstart, -⟩ := hline
  omega

/-- A line of a text is its first line, or a line of what stands behind the break of that line. -/
theorem isOf_append_iff {first rest : List Char} (hfirst : IsUnbroken first)
    (hrest : StartsBreak rest) :
    line.IsOf start (first ++ rest) ↔ line = ⟨start, first⟩ ∨
      ∃ c behind, rest = c :: behind ∧ line.IsOf (start + byteSize first + 1) behind := by
  have hfirstLine := firstLine_append_of_startsBreak hfirst hrest
  constructor
  · rintro ⟨before, after, htext, hstart, hline, hbefore, hafter⟩
    by_cases hunbroken : IsUnbroken before
    · left
      have hempty := eq_nil_of_isUnbroken hbefore hunbroken
      subst hempty
      rw [htext, List.nil_append, firstLine_append_of_startsBreak hline hafter] at hfirstLine
      rw [← hfirstLine, ← Nat.add_zero start, ← byteSize_nil, ← hstart]
    · right
      -- the first break of what stands before the line is the first break of the text
      obtain ⟨behind, hbehind, hbreak⟩ := exists_firstLine_append before
      rw [htext, List.append_assoc, firstLine_append_of_not_isUnbroken hunbroken] at hfirstLine
      rw [hfirstLine] at hbehind
      subst hbehind
      cases behind with
      | nil => exact absurd (by simpa using hfirst) hunbroken
      | cons c behind =>
        have hc : isLineBreak c := hbreak c rfl
        rw [List.append_assoc, List.append_assoc, List.append_cancel_left_eq] at htext
        refine ⟨c, behind ++ line.text ++ after, by simpa using htext, behind, after, rfl, ?_,
          hline, (endsLine_append_cons hc first behind).mp hbefore, hafter⟩
        rw [hstart, byteSize_append, byteSize_cons, utf8Size_of_isLineBreak hc]
        omega
  · rintro (rfl | ⟨c, behind, rfl, before, after, rfl, hstart, hline, hbefore, hafter⟩)
    · exact ⟨[], rest, rfl, rfl, hfirst, by simp [EndsLine], hrest⟩
    · have hc : isLineBreak c := hrest c rfl
      refine ⟨first ++ c :: before, after, by simp, ?_, hline,
        (endsLine_append_cons hc first before).mpr hbefore, hafter⟩
      rw [hstart, byteSize_append, byteSize_cons, utf8Size_of_isLineBreak hc]
      omega

end Line

/-! ### The line at an offset -/

theorem findLine?_lines_eq_some_iff {text : List Char} {start offset : Nat} {line : Line}
    (hoffset : start ≤ offset) :
    findLine? offset start (lines text) = some line ↔
      line.IsOf start text ∧ line.start ≤ offset ∧ offset ≤ line.start + byteSize line.text := by
  induction hlength : text.length using Nat.strong_induction_on generalizing text start with
  | _ length ih =>
    obtain ⟨rest, htext, hrest⟩ := exists_firstLine_append text
    have hfirst := isUnbroken_firstLine text
    generalize firstLine text = first at htext hfirst
    subst htext
    rw [Line.isOf_append_iff hfirst hrest, lines_append hfirst hrest, findLine?]
    by_cases hin : offset ≤ start + byteSize first
    · rw [if_pos hin, Option.some.injEq]
      constructor
      · rintro rfl
        exact ⟨Or.inl rfl, hoffset, hin⟩
      · rintro ⟨rfl | ⟨c, behind, -, hline⟩, hstart, -⟩
        · rfl
        · have hbehind := hline.start_le
          omega
    · rw [if_neg hin]
      cases rest with
      | nil =>
        rw [if_pos rfl, findLine?]
        constructor
        · exact fun hnone ↦ absurd hnone (Option.some_ne_none line).symm
        · rintro ⟨rfl | ⟨_, _, hcons, -⟩, hbounds⟩
          · exact absurd hbounds.2 hin
          · exact absurd hcons (List.cons_ne_nil _ _).symm
      | cons c behind =>
        have hshorter : behind.length < length := by
          rw [← hlength, List.length_append, List.length_cons]
          omega
        rw [if_neg (List.cons_ne_nil _ _), List.tail_cons, ih _ hshorter (by omega) rfl]
        constructor
        · rintro ⟨hline, hbounds⟩
          exact ⟨Or.inr ⟨c, behind, rfl, hline⟩, hbounds⟩
        · rintro ⟨rfl | ⟨_, _, hcons, hline⟩, hbounds⟩
          · exact absurd hbounds.2 hin
          · obtain ⟨-, rfl⟩ := List.cons.inj hcons
            exact ⟨hline, hbounds⟩

/-- The line at an offset is the one that the offset lies in or at the end of. -/
theorem lineAt?_eq_some_iff {offset : Nat} {text : List Char} {line : Line} :
    lineAt? offset text = some line ↔
      line.IsOf 0 text ∧ line.start ≤ offset ∧ offset ≤ line.start + byteSize line.text :=
  findLine?_lines_eq_some_iff (Nat.zero_le offset)

theorem findLine?_lines_eq_none_iff {text : List Char} {start offset : Nat} :
    findLine? offset start (lines text) = none ↔ start + byteSize text < offset := by
  induction hlength : text.length using Nat.strong_induction_on generalizing text start with
  | _ length ih =>
    obtain ⟨rest, htext, hrest⟩ := exists_firstLine_append text
    have hfirst := isUnbroken_firstLine text
    generalize firstLine text = first at htext hfirst
    subst htext
    rw [lines_append hfirst hrest, findLine?, byteSize_append]
    by_cases hin : offset ≤ start + byteSize first
    · rw [if_pos hin]
      simp only [reduceCtorEq, false_iff]
      omega
    · rw [if_neg hin]
      cases rest with
      | nil =>
        rw [if_pos rfl, findLine?, byteSize_nil]
        simp only [true_iff]
        omega
      | cons c behind =>
        have hshorter : behind.length < length := by
          rw [← hlength, List.length_append, List.length_cons]
          omega
        rw [if_neg (List.cons_ne_nil _ _), List.tail_cons, ih _ hshorter rfl, byteSize_cons,
          utf8Size_of_isLineBreak (hrest c rfl)]
        omega

/-- There is no line at an offset behind the end of a text, and nowhere else is there none. -/
theorem lineAt?_eq_none_iff {offset : Nat} {text : List Char} :
    lineAt? offset text = none ↔ byteSize text < offset := by
  rw [lineAt?, findLine?_lines_eq_none_iff, Nat.zero_add]

end RecordTemplate.Text
