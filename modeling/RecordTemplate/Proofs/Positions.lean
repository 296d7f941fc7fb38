import RecordTemplate.Proofs.Bytes
import RecordTemplate.Proofs.Reading

/-!
Braces at byte offsets of a source. A brace is escaped if the byte right before it is a backslash
(`IsEscaped`), and otherwise bare (`IsBare`); the offsets of the bare braces are those of the bare
tokens (`isBare_iff`). A bare opening brace and the first bare closing brace behind it delimit a
name if there is something between the two (`Delimits`). Delimiters and the tokens of references
are the same thing (`Delimits.exists_name`, `delimits_of_scan`).
-/

set_option autoImplicit false
set_option relaxedAutoImplicit false

namespace RecordTemplate

open Token

/-! ### Offsets of tokens -/

/-- The number of bytes that tokens are written with. -/
def Token.writtenSize (tokens : List Token) : Nat :=
  Text.byteSize (tokens.flatMap source)

namespace Token

@[simp] theorem writtenSize_nil : writtenSize [] = 0 := rfl

@[simp] theorem writtenSize_append (first second : List Token) :
    writtenSize (first ++ second) = writtenSize first + writtenSize second := by
  rw [writtenSize, List.flatMap_append, Text.byteSize_append]
  rfl

@[simp] theorem writtenSize_cons_bare (brace : Brace) (tokens : List Token) :
    writtenSize (bare brace :: tokens) = 1 + writtenSize tokens := by
  cases brace <;> rfl

@[simp] theorem writtenSize_eq_zero_iff {tokens : List Token} :
    writtenSize tokens = 0 ↔ tokens = [] := by
  rw [writtenSize, Text.byteSize_eq_zero_iff, flatMap_source_eq_nil_iff]

/-- Of two ways to cut tokens, the one with the smaller first part cuts the first part of the
other. -/
theorem exists_middle_of_append_eq {first rest other tokens : List Token}
    (heq : first ++ rest = other ++ tokens) (hle : writtenSize first ≤ writtenSize other) :
    ∃ middle, other = first ++ middle ∧ rest = middle ++ tokens := by
  rcases List.append_eq_append_iff.mp heq with ⟨middle, hother, hrest⟩ | ⟨middle, hfirst, htokens⟩
  · exact ⟨middle, hother, hrest⟩
  · rw [hfirst, writtenSize_append] at hle
    have hmiddle : middle = [] := writtenSize_eq_zero_iff.mp (by omega)
    subst hmiddle
    exact ⟨[], by simpa using hfirst.symm, by simpa using htokens.symm⟩

/-- A cut behind a bare brace cuts what stands behind the brace. -/
theorem exists_middle_of_append_bare_eq {first rest other tokens : List Token} {brace : Brace}
    (heq : first ++ bare brace :: rest = other ++ tokens)
    (hlt : writtenSize first < writtenSize other) :
    ∃ middle, other = first ++ bare brace :: middle ∧ rest = middle ++ tokens := by
  have hle : writtenSize (first ++ [bare brace]) ≤ writtenSize other := by
    rw [writtenSize_append, writtenSize_cons_bare, writtenSize_nil]
    omega
  rw [← List.singleton_append, ← List.append_assoc] at heq
  obtain ⟨middle, hother, hrest⟩ := exists_middle_of_append_eq heq hle
  refine ⟨middle, ?_, hrest⟩
  rw [hother, List.append_assoc, List.singleton_append]

end Token

/-! ### Bare braces -/

/-- A brace right behind a backslash is escaped. -/
def IsEscaped (source : String) (offset : Nat) : Prop :=
  0 < offset ∧ Text.byteAt? source (offset - 1) = some '\\'.toUInt8

/-- A brace that is not escaped stands at an offset. -/
def IsBare (source : String) (brace : Brace) (offset : Nat) : Prop :=
  Text.byteAt? source offset = some brace.char.toUInt8 ∧ ¬ IsEscaped source offset

instance (source : String) (offset : Nat) : Decidable (IsEscaped source offset) :=
  inferInstanceAs (Decidable (_ ∧ _))

instance (source : String) (brace : Brace) (offset : Nat) :
    Decidable (IsBare source brace offset) :=
  inferInstanceAs (Decidable (_ ∧ _))

theorem isEscaped_byteSize_iff {source : String} {before after : List Char}
    (hsource : source.toList = before ++ after) :
    IsEscaped source (Text.byteSize before) ↔ before.getLast? = some '\\' := by
  have hsize : '\\'.utf8Size = 1 := rfl
  rw [IsEscaped, Text.byteAt?_eq_some_iff hsize, List.getLast?_eq_some_iff]
  constructor
  · intro hescaped
    obtain ⟨hpos, lead, rest, hlead, hoffset⟩ := hescaped
    have hcut : Text.byteSize (lead ++ ['\\']) = Text.byteSize before := by
      rw [Text.byteSize_append, Text.byteSize_cons, Text.byteSize_nil]
      omega
    rw [hsource, ← List.singleton_append, ← List.append_assoc] at hlead
    exact ⟨lead, Text.eq_of_append_eq hlead hcut.symm⟩
  · intro hlast
    obtain ⟨lead, rfl⟩ := hlast
    rw [Text.byteSize_append, Text.byteSize_cons, Text.byteSize_nil]
    refine ⟨by omega, lead, after, ?_, by omega⟩
    rw [hsource, List.append_assoc, List.singleton_append]

/-- The bare braces of a source are its bare tokens. -/
theorem isBare_iff {source : String} {brace : Brace} {offset : Nat} :
    IsBare source brace offset ↔
      ∃ before after, scan source.toList = before ++ bare brace :: after ∧
        writtenSize before = offset := by
  rw [IsBare, Text.byteAt?_eq_some_iff brace.utf8Size_char]
  constructor
  · intro hbare
    obtain ⟨⟨before, after, hsource, rfl⟩, hescaped⟩ := hbare
    rw [isEscaped_byteSize_iff hsource] at hescaped
    refine ⟨scan before, scan after, ?_, ?_⟩
    · rw [hsource, scan_append_brace hescaped]
    · rw [writtenSize, flatMap_source_scan]
  · intro htoken
    obtain ⟨before, after, hscan, rfl⟩ := htoken
    obtain ⟨hsource, hlast⟩ := source_of_scan_eq_append hscan
    refine ⟨⟨_, _, hsource, rfl⟩, ?_⟩
    rwa [writtenSize, isEscaped_byteSize_iff hsource]

example : IsBare "\\\x7b\x7bé\x7d" .opening 2 ∧ ¬ IsBare "\\\x7b\x7bé\x7d" .opening 1 := by
  decide

/-! ### Delimiters -/

/-- A bare opening brace and the first bare closing brace behind it, with something between the
two. -/
structure Delimits (source : String) (opening closing : Nat) : Prop where
  isBare_opening : IsBare source .opening opening
  isBare_closing : IsBare source .closing closing
  first : ∀ offset, opening < offset → offset < closing → ¬ IsBare source .closing offset
  name_ne_empty : opening + 1 < closing

theorem Delimits.unique {source : String} {opening closing other : Nat}
    (hclosing : Delimits source opening closing) (hother : Delimits source opening other) :
    closing = other := by
  have hleft := hclosing.name_ne_empty
  have hright := hother.name_ne_empty
  rcases Nat.lt_trichotomy closing other with hlt | heq | hgt
  · exact absurd hclosing.isBare_closing (hother.first closing (by omega) hlt)
  · exact heq
  · exact absurd hother.isBare_closing (hclosing.first other (by omega) hgt)

/-- The tokens between two delimiters are a name. -/
theorem Delimits.exists_name {source : String} {opening closing : Nat}
    (hdelimits : Delimits source opening closing) :
    ∃ before name rest, Piece.IsName name ∧
      scan source.toList = before ++ ((Piece.reference name).tokens ++ rest) ∧
      writtenSize before = opening ∧ closing = opening + 1 + writtenSize name := by
  have hgap := hdelimits.name_ne_empty
  obtain ⟨before, after, hopening, rfl⟩ := isBare_iff.mp hdelimits.isBare_opening
  obtain ⟨lead, rest, hclosing, rfl⟩ := isBare_iff.mp hdelimits.isBare_closing
  obtain ⟨name, rfl, rfl⟩ :=
    exists_middle_of_append_bare_eq (hopening.symm.trans hclosing) (by omega)
  have hsize : writtenSize (before ++ bare .opening :: name) =
      writtenSize before + 1 + writtenSize name := by
    rw [writtenSize_append, writtenSize_cons_bare, Nat.add_assoc]
  rw [hsize] at hgap ⊢
  refine ⟨before, name, rest, ⟨?_, ?_⟩, ?_, rfl, rfl⟩
  · intro hempty
    rw [hempty, writtenSize_nil] at hgap
    omega
  · -- a closing brace within the name would be the first one
    intro hname
    obtain ⟨first, second, rfl⟩ := List.append_of_mem hname
    refine hdelimits.first (writtenSize (before ++ bare .opening :: first)) ?_ ?_
      (isBare_iff.mpr ⟨_, second ++ bare .closing :: rest, ?_, rfl⟩)
    · rw [writtenSize_append, writtenSize_cons_bare]
      omega
    · simp only [writtenSize_append, writtenSize_cons_bare]
      omega
    · rw [hclosing]
      simp
  · rw [hopening, Piece.tokens_reference_append]

/-- The braces of a reference are delimiters. -/
theorem delimits_of_scan {source : String} {before name rest : List Token}
    (hname : Piece.IsName name)
    (hscan : scan source.toList = before ++ ((Piece.reference name).tokens ++ rest)) :
    Delimits source (writtenSize before) (writtenSize before + 1 + writtenSize name) := by
  rw [Piece.tokens_reference_append] at hscan
  have hpos : 0 < writtenSize name :=
    Nat.pos_of_ne_zero fun hzero ↦ hname.1 (writtenSize_eq_zero_iff.mp hzero)
  refine ⟨isBare_iff.mpr ⟨before, _, hscan, rfl⟩,
    isBare_iff.mpr ⟨before ++ bare .opening :: name, rest, ?_, ?_⟩, ?_, by omega⟩
  · rw [hscan, List.append_assoc, List.cons_append]
  · rw [writtenSize_append, writtenSize_cons_bare, Nat.add_assoc]
  · intro offset hopening hclosing hbare
    obtain ⟨lead, after, hlead, rfl⟩ := isBare_iff.mp hbare
    obtain ⟨middle, rfl, hmiddle⟩ :=
      exists_middle_of_append_bare_eq (hscan.symm.trans hlead) hopening
    rw [writtenSize_append, writtenSize_cons_bare] at hclosing
    -- the brace found lies within the name, since its part in front is the shorter one
    obtain ⟨tail, rfl, htail⟩ := exists_middle_of_append_eq hmiddle.symm (by omega)
    cases tail with
    | nil =>
      rw [List.append_nil] at hclosing
      omega
    | cons token tail =>
      rw [List.cons_append, List.cons.injEq] at htail
      refine hname.2 (List.mem_append_right _ ?_)
      rw [htail.1]
      exact List.mem_cons_self

end RecordTemplate
