import Mathlib.Data.String.Basic
import RecordTemplate.Text.Writer

/-!
Computations that do nothing but write some fragments in order. On any writer such a computation
hands over one fragment after the other until one is refused, and reports the refusal
(`Writing.runOn_writeAll_cases`). A text takes all of them (`Writing.text?_writeAll`), and a writer
with limited room ends up with the first characters of them, as many as it has room for
(`Writing.writeUpTo_writeAll`).
-/

set_option autoImplicit false
set_option relaxedAutoImplicit false

namespace RecordTemplate

namespace Writing

variable {σ α β : Type}

/-! ### One computation after the other -/

section Bind

variable {writing : Writing σ α} {writer next : σ}

theorem runOn_bind_of_ok {value : α} (hrun : writing.runOn writer = some (.ok value, next))
    (rest : α → Writing σ β) : (writing >>= rest).runOn writer = (rest value).runOn next := by
  change (writing.runOn writer).bind _ = _
  rw [hrun]
  rfl

/-- A refusal ends a computation: what would come next is left out. -/
theorem runOn_bind_of_error {error : WriteError}
    (hrun : writing.runOn writer = some (.error error, next)) (rest : α → Writing σ β) :
    (writing >>= rest).runOn writer = some (.error error, next) := by
  change (writing.runOn writer).bind _ = _
  rw [hrun]
  rfl

theorem runOn_bind_of_none (hrun : writing.runOn writer = none) (rest : α → Writing σ β) :
    (writing >>= rest).runOn writer = none := by
  change (writing.runOn writer).bind _ = _
  rw [hrun]
  rfl

theorem demand_some_bind (value : α) (rest : α → Writing σ β) :
    (demand (some value) >>= rest) = rest value :=
  rfl

end Bind

/-! ### Fragments in order -/

variable [Writer σ]

def writeAll (fragments : List String) : Writing σ Unit :=
  fragments.forM write

theorem writeAll_cons (fragment : String) (fragments : List String) :
    (writeAll (fragment :: fragments) : Writing σ Unit) =
      write fragment >>= fun _ ↦ writeAll fragments :=
  rfl

theorem writeAll_singleton (fragment : String) :
    (writeAll [fragment] : Writing σ Unit) = write fragment :=
  bind_pure_unit

theorem writeAll_append (fragments behind : List String) :
    (writeAll (fragments ++ behind) : Writing σ Unit) =
      writeAll fragments >>= fun _ ↦ writeAll behind :=
  List.forM_append

/-- A writer accepts fragments one after the other. -/
inductive Accepts : σ → List String → σ → Prop
  | done (writer : σ) : Accepts writer [] writer
  | next {writer behind last : σ} {fragment : String} {fragments : List String}
      (hfragment : Writer.accept fragment writer = (.ok (), behind))
      (hrest : Accepts behind fragments last) : Accepts writer (fragment :: fragments) last

/-- Writing fragments to any writer: either it accepts all of them, or it has accepted those before
the one that it refuses, and those behind are not handed to it. -/
theorem runOn_writeAll_cases (fragments : List String) (writer : σ) :
    (∃ last, Accepts writer fragments last ∧
        (writeAll fragments).runOn writer = some (.ok (), last)) ∨
      ∃ accepted refused behind error, ∃ before last : σ,
        fragments = accepted ++ refused :: behind ∧ Accepts writer accepted before ∧
          Writer.accept refused before = (.error error, last) ∧
          (writeAll fragments).runOn writer = some (.error error, last) := by
  induction fragments generalizing writer with
  | nil => exact .inl ⟨writer, .done writer, rfl⟩
  | cons fragment fragments ih =>
    rcases haccept : Writer.accept fragment writer with ⟨result, behind⟩
    have hwrite : (write fragment : Writing σ Unit).runOn writer = some (result, behind) :=
      congrArg some haccept
    rw [writeAll_cons]
    cases result with
    | error error =>
      exact .inr ⟨[], fragment, fragments, error, writer, behind, rfl, .done writer, haccept,
        runOn_bind_of_error hwrite _⟩
    | ok value =>
      rw [runOn_bind_of_ok hwrite]
      obtain ⟨last, haccepts, hrun⟩ | ⟨accepted, refused, others, error, before, last, rfl,
        haccepts, hrefused, hrun⟩ := ih behind
      · exact .inl ⟨last, .next haccept haccepts, hrun⟩
      · exact .inr ⟨fragment :: accepted, refused, others, error, before, last, rfl,
          .next haccept haccepts, hrefused, hrun⟩

/-! ### Texts and writers with limited room -/

theorem runOn_writeAll_text (fragments : List String) (text : String) :
    (writeAll fragments).runOn text = some (.ok (), text ++ String.join fragments) := by
  induction fragments generalizing text with
  | nil =>
    rw [String.join_nil, String.append_empty]
    rfl
  | cons fragment fragments ih =>
    have hwrite : (write fragment).runOn text = some (.ok (), text ++ fragment) := rfl
    rw [writeAll_cons, runOn_bind_of_ok hwrite, ih, String.join_cons, String.append_assoc]

/-- A text takes fragments one behind the other. -/
theorem text?_writeAll (fragments : List String) :
    (writeAll fragments).text? = some (String.join fragments) := by
  rw [text?, runOn_writeAll_text, Option.map_some, String.empty_append]

/-- The first characters of fragments, as many as there is room for, and a refusal if these are not
all. -/
theorem runOn_writeAll_bounded (fragments : List String) (writer : BoundedWriter) :
    (writeAll fragments).runOn writer =
      some (if (String.join fragments).length ≤ writer.room then .ok () else .error .refused,
        ⟨writer.text ++ String.ofList ((String.join fragments).toList.take writer.room),
          writer.room - (String.join fragments).length⟩) := by
  induction fragments generalizing writer with
  | nil =>
    have hnil : (writeAll []).runOn writer = some (.ok (), writer) := rfl
    rw [hnil, String.join_nil]
    simp
  | cons fragment fragments ih =>
    obtain ⟨text, room⟩ := writer
    have hlength := fragment.length_toList
    rw [writeAll_cons, String.join_cons, String.length_append, String.toList_append]
    by_cases hfits : fragment.length ≤ room
    · have hwrite : (write fragment).runOn (⟨text, room⟩ : BoundedWriter) =
          some (.ok (), ⟨text ++ fragment, room - fragment.length⟩) :=
        congrArg some (if_pos hfits)
      have htake : (fragment.toList ++ (String.join fragments).toList).take room =
          fragment.toList ++ (String.join fragments).toList.take (room - fragment.length) := by
        rw [List.take_append, hlength, List.take_of_length_le (by omega)]
      have hall : fragment.length + (String.join fragments).length ≤ room ↔
          (String.join fragments).length ≤ room - fragment.length := by omega
      rw [runOn_bind_of_ok hwrite, ih, htake, String.ofList_append, String.ofList_toList,
        ← String.append_assoc, Nat.sub_sub]
      simp only [hall]
    · have hwrite : (write fragment).runOn (⟨text, room⟩ : BoundedWriter) =
          some (.error .refused, ⟨text ++ String.ofList (fragment.toList.take room), 0⟩) :=
        congrArg some (if_neg hfits)
      have htake : (fragment.toList ++ (String.join fragments).toList).take room =
          fragment.toList.take room := List.take_append_of_le_length (by omega)
      have hmore : ¬ fragment.length + (String.join fragments).length ≤ room := by omega
      rw [runOn_bind_of_error hwrite, htake, if_neg hmore,
        Nat.sub_eq_zero_of_le (Nat.le_of_not_le hmore)]

/-- A writer with limited room takes the first characters of fragments, as many as it has room for,
and the fragments are complete if these are all. -/
theorem writeUpTo_writeAll (fragments : List String) (limit : Nat) :
    (writeAll fragments).writeUpTo limit =
      some ⟨String.ofList ((String.join fragments).toList.take limit),
        decide ((String.join fragments).length ≤ limit)⟩ := by
  rw [writeUpTo, runOn_writeAll_bounded, Option.map_some, String.empty_append]
  by_cases hfits : (String.join fragments).length ≤ limit
  · rw [if_pos hfits, decide_eq_true hfits]
    rfl
  · rw [if_neg hfits, decide_eq_false hfits]
    rfl

end Writing

end RecordTemplate
