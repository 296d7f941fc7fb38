import RecordTemplate.Proofs.Evaluation

/-!
Sources side by side. If every bare opening brace of a source has a bare closing brace behind it in
the same source (`IsClosed`), no reference of the source can end in what is written behind it. If
moreover no backslash at its end meets a brace, the two sources are read as each of them alone,
though constants merge where they meet. So the evaluation of the two written as one is the
evaluation of the first and then of the second, with the offsets of the second moved behind the
first (`evaluate_parse_append`, and case by case `evaluate_append_of_isClosed`).
-/

set_option autoImplicit false
set_option relaxedAutoImplicit false

namespace RecordTemplate

open Token

/-! ### Closed sources -/

/-- Every bare opening brace of a source has a bare closing brace behind it. -/
def IsClosed (source : String) : Prop :=
  ∀ opening, IsBare source .opening opening →
    ∃ closing, opening < closing ∧ IsBare source .closing closing

/-- Behind every bare opening brace among tokens there is a bare closing one. -/
def Token.Closed (tokens : List Token) : Prop :=
  ∀ before after, tokens = before ++ bare .opening :: after → bare .closing ∈ after

theorem Token.Closed.right {first second : List Token} (hclosed : Closed (first ++ second)) :
    Closed second := by
  intro before after hsecond
  refine hclosed (first ++ before) after ?_
  rw [hsecond, List.append_assoc]

theorem IsClosed.closed_scan {source : String} (hsource : IsClosed source) :
    Closed (scan source.toList) := by
  intro before after hopening
  obtain ⟨closing, hlt, hbare⟩ := hsource _ (isBare_iff.mpr ⟨before, after, hopening, rfl⟩)
  obtain ⟨lead, rest, hclosing, rfl⟩ := isBare_iff.mp hbare
  obtain ⟨middle, -, rfl⟩ := exists_middle_of_append_bare_eq (hopening.symm.trans hclosing) hlt
  exact List.mem_append_right _ List.mem_cons_self

theorem IsBare.lt_utf8ByteSize {source : String} {brace : Brace} {offset : Nat}
    (hbare : IsBare source brace offset) : offset < source.utf8ByteSize := by
  obtain ⟨before, after, hsource, rfl⟩ := (Text.byteAt?_eq_some_iff brace.utf8Size_char).mp hbare.1
  rw [← Text.byteSize_toList, hsource, Text.byteSize_append, Text.byteSize_cons,
    brace.utf8Size_char]
  omega

instance (source : String) : Decidable (IsClosed source) :=
  decidable_of_iff
    (∀ opening < source.utf8ByteSize, IsBare source .opening opening →
      ∃ closing < source.utf8ByteSize, opening < closing ∧ IsBare source .closing closing) <| by
    constructor
    · intro hbounded opening hopening
      obtain ⟨closing, -, hclosing⟩ := hbounded opening hopening.lt_utf8ByteSize hopening
      exact ⟨closing, hclosing⟩
    · intro hclosed opening _ hopening
      obtain ⟨closing, hlt, hclosing⟩ := hclosed opening hopening
      exact ⟨closing, hclosing.lt_utf8ByteSize, hlt, hclosing⟩

example : IsClosed "\x7b\x7b\x7d\\\x7d\x7d" ∧ ¬ IsClosed "\x7b\x7b\x7d\x7b\\\x7d" := by
  decide

/-! ### References in closed tokens -/

/-- What stands behind closed tokens does not start a reference at the first of them. -/
theorem Piece.not_startsReference_append {tokens : List Token} (hclosed : Closed tokens)
    (hne : tokens ≠ []) (hstart : ¬ StartsReference tokens) (behind : List Token) :
    ¬ StartsReference (tokens ++ behind) := by
  rintro ⟨name, rest, hname, htokens⟩
  rw [tokens_reference_append] at htokens
  obtain ⟨first, others, rfl⟩ := List.exists_cons_of_ne_nil hne
  rw [List.cons_append, List.cons.injEq] at htokens
  obtain ⟨rfl, hothers⟩ := htokens
  -- the first closing brace stands in the tokens themselves, so the name ends there
  obtain ⟨inner, outer, rfl, hinner⟩ := List.eq_append_cons_of_mem (hclosed [] others rfl)
  have hsplit := splitAtClosing?_append hinner (outer ++ behind)
  rw [← List.cons_append, ← List.append_assoc, hothers, splitAtClosing?_append hname.2,
    Option.some.injEq, Prod.mk.injEq] at hsplit
  rw [← hsplit.1] at hstart
  exact hstart ⟨name, outer, hname, (tokens_reference_append name outer).symm⟩

/-! ### Outcomes of segments -/

/-- The same reference in a source that starts earlier by a number of bytes. -/
def MissingField.moveBy (missing : MissingField) (size : Nat) : MissingField :=
  { missing with position := missing.position + size }

namespace Segment

variable {record : Record} {encoding : Encoding}

/-- What segments become, one text behind the other, or the first of them that has no value. -/
def outcome (segments : List Segment) (record : Record) (encoding : Encoding) :
    Except MissingField String :=
  (segments.mapM (evaluate · record encoding)).map String.join

theorem outcome_cons (segment : Segment) (segments : List Segment) :
    outcome (segment :: segments) record encoding =
      (segment.evaluate record encoding).bind fun text ↦
        (outcome segments record encoding).map (text ++ ·) := by
  rw [outcome, outcome, List.mapM_cons]
  cases segment.evaluate record encoding with
  | error missing => rfl
  | ok text =>
    cases segments.mapM (evaluate · record encoding) with
    | error missing => rfl
    | ok texts => exact congrArg Except.ok (String.join_cons ..)

theorem evaluate_segment_literal (start : Nat) (tokens : List Token) :
    ((Piece.literal tokens).segment start).evaluate record encoding =
      .ok (String.ofList (tokens.map Token.text)) := rfl

theorem evaluate_segment_add (start size : Nat) (piece : Piece) :
    (piece.segment (start + size)).evaluate record encoding =
      ((piece.segment start).evaluate record encoding).mapError (·.moveBy size) := by
  cases piece with
  | literal tokens => rfl
  | reference name =>
    simp only [evaluate, Piece.segment]
    split
    · rfl
    · show _ = Except.error _
      simp [MissingField.moveBy]
      omega

/-- Where segments stand shows in their errors only. -/
theorem outcome_ofPieces_add (start size : Nat) (pieces : List Piece) :
    outcome (ofPieces (start + size) pieces) record encoding =
      (outcome (ofPieces start pieces) record encoding).mapError (·.moveBy size) := by
  induction pieces generalizing start with
  | nil => rfl
  | cons piece pieces ih =>
    have hnext : start + size + Text.byteSize piece.source =
        start + Text.byteSize piece.source + size := by omega
    rw [ofPieces, ofPieces, outcome_cons, outcome_cons, evaluate_segment_add, hnext, ih]
    cases (piece.segment start).evaluate record encoding with
    | error missing => rfl
    | ok text =>
      cases outcome (ofPieces (start + Text.byteSize piece.source) pieces) record encoding <;> rfl

/-- One more literal token in front is one more character of output. -/
theorem outcome_prependLiteral (start : Nat) (token : Token) (pieces : List Piece) :
    outcome (ofPieces start (Piece.prependLiteral token pieces)) record encoding =
      (outcome (ofPieces (start + writtenSize [token]) pieces) record encoding).map
        (String.singleton token.text ++ ·) := by
  unfold Piece.prependLiteral
  split
  · next tokens rest =>
    have hnext : start + Text.byteSize (Piece.literal (token :: tokens)).source =
        start + writtenSize [token] + Text.byteSize (Piece.literal tokens).source := by
      rw [byteSize_source_literal_cons, Nat.add_assoc]
    rw [ofPieces, ofPieces, outcome_cons, outcome_cons, evaluate_segment_literal,
      evaluate_segment_literal, hnext]
    cases outcome (ofPieces _ rest) record encoding with
    | error missing => rfl
    | ok text =>
      rw [List.map_cons, String.ofList_cons]
      exact congrArg Except.ok (String.append_assoc ..)
  · rw [ofPieces, outcome_cons, evaluate_segment_literal, List.map_singleton,
      ← String.singleton_eq_ofList]
    rfl

end Segment

/-! ### Outcomes of sources side by side -/

section

variable (record : Record) (encoding : Encoding)

/-- Closed tokens are read and evaluated as if nothing stood behind them, and what stands behind
them as if nothing stood before it. The induction is on the reading of the closed tokens. -/
theorem outcome_ofTokens_append {tokens : List Token} {pieces : List Piece}
    (hread : Piece.Reads tokens pieces) (hclosed : Closed tokens) (start : Nat)
    (behind : List Token) :
    Segment.outcome (Segment.ofPieces start (Piece.ofTokens (tokens ++ behind))) record encoding =
      (Segment.outcome (Segment.ofPieces start pieces) record encoding).bind fun first ↦
        (Segment.outcome (Segment.ofPieces (start + writtenSize tokens) (Piece.ofTokens behind))
          record encoding).map (first ++ ·) := by
  induction hread generalizing start with
  | done =>
    show _ = Except.map ("" ++ ·) _
    rw [List.nil_append, writtenSize_nil, Nat.add_zero]
    cases Segment.outcome (Segment.ofPieces start (Piece.ofTokens behind)) record encoding with
    | error missing => rfl
    | ok text => exact congrArg Except.ok String.empty_append.symm
  | @literal token tokens pieces hstart hrest ih =>
    have hbehind := Piece.not_startsReference_append hclosed (List.cons_ne_nil _ _) hstart behind
    have hnext : start + writtenSize (token :: tokens) =
        start + writtenSize [token] + writtenSize tokens := by
      rw [← List.singleton_append, writtenSize_append, Nat.add_assoc]
    rw [List.cons_append] at hbehind ⊢
    rw [Piece.ofTokens_cons_of_not_startsReference hbehind,
      Segment.outcome_prependLiteral, Segment.outcome_prependLiteral, hnext,
      ih (List.singleton_append ▸ hclosed : Closed ([token] ++ tokens)).right]
    cases Segment.outcome (Segment.ofPieces (start + writtenSize [token]) pieces) record
      encoding with
    | error missing => rfl
    | ok first =>
      cases Segment.outcome (Segment.ofPieces _ (Piece.ofTokens behind)) record encoding with
      | error missing => rfl
      | ok second => exact congrArg Except.ok (String.append_assoc ..).symm
  | @reference name rest pieces hname hrest ih =>
    have hsource : Text.byteSize (Piece.reference name).source =
        writtenSize (Piece.reference name).tokens := by
      rw [Piece.source_eq]
      rfl
    rw [List.append_assoc, Piece.ofTokens_reference_append hname, Segment.ofPieces,
      Segment.ofPieces, Segment.outcome_cons, Segment.outcome_cons, ih hclosed.right, hsource,
      writtenSize_append, ← Nat.add_assoc]
    cases ((Piece.reference name).segment start).evaluate record encoding with
    | error missing => rfl
    | ok value =>
      cases Segment.outcome (Segment.ofPieces _ pieces) record encoding with
      | error missing => rfl
      | ok first =>
        cases Segment.outcome (Segment.ofPieces _ (Piece.ofTokens behind)) record encoding with
        | error missing => rfl
        | ok second => exact congrArg Except.ok (String.append_assoc ..).symm

/-- The evaluation of two sources written as one. -/
theorem evaluate_parse_append {source behind : String} (hclosed : IsClosed source)
    (hcut : ¬ (source.toList.getLast? = some '\\' ∧ startsWithBrace behind.toList)) :
    (Template.parse (source ++ behind)).evaluate record encoding =
      ((Template.parse source).evaluate record encoding).bind fun first ↦
        (((Template.parse behind).evaluate record encoding).mapError
          (·.moveBy source.utf8ByteSize)).map (first ++ ·) := by
  have hscan : scan (source ++ behind).toList = scan source.toList ++ scan behind.toList := by
    rw [String.toList_append]
    exact scan_append fun hlast hbrace ↦ hcut ⟨hlast, hbrace⟩
  have hsize : writtenSize (scan source.toList) = source.utf8ByteSize := by
    rw [writtenSize, flatMap_source_scan, Text.byteSize_toList]
  have houtcome := outcome_ofTokens_append record encoding
    (Piece.reads_ofTokens (scan source.toList)) hclosed.closed_scan 0 (scan behind.toList)
  rw [← hscan, Segment.outcome_ofPieces_add, hsize] at houtcome
  simp only [Template.parse_eq]
  exact houtcome

end

/-- A source and another one behind it, evaluated as one: the outputs come one behind the other, and
the first error is that of the source or else that of the other, moved behind the source. -/
theorem evaluate_append_of_isClosed {source behind : String} (hclosed : IsClosed source)
    (hcut : ¬ (source.toList.getLast? = some '\\' ∧ startsWithBrace behind.toList))
    (record : Record) (encoding : Encoding) :
    (∀ first second, (Template.parse source).evaluate record encoding = .ok first →
        (Template.parse behind).evaluate record encoding = .ok second →
          (Template.parse (source ++ behind)).evaluate record encoding = .ok (first ++ second)) ∧
      (∀ missing, (Template.parse source).evaluate record encoding = .error missing →
        (Template.parse (source ++ behind)).evaluate record encoding = .error missing) ∧
      ∀ first missing, (Template.parse source).evaluate record encoding = .ok first →
        (Template.parse behind).evaluate record encoding = .error missing →
          (Template.parse (source ++ behind)).evaluate record encoding =
            .error (missing.moveBy source.utf8ByteSize) := by
  have happend := evaluate_parse_append record encoding hclosed hcut
  refine ⟨?_, ?_, ?_⟩
  · intro first second hfirst hsecond
    rw [happend, hfirst, hsecond]
    rfl
  · intro missing herror
    rw [happend, herror]
    rfl
  · intro first missing hfirst herror
    rw [happend, hfirst, herror]
    rfl

/-- A source that ends in an empty pair of braces and a backslash, before one that fails. -/
theorem evaluate_append_of_isClosed_backslash :
    IsClosed "\x7ba\x7d\x7b\x7d\\" ∧
      ¬ ("\x7ba\x7d\x7b\x7d\\".toList.getLast? = some '\\' ∧
        startsWithBrace "é\x7bb\x7d".toList) ∧
      (Template.parse ("\x7ba\x7d\x7b\x7d\\" ++ "é\x7bb\x7d")).evaluate
        (Record.ofPairs [("a", "1")]) .raw = .error ⟨9, 1, "b"⟩ := by
  have hclosed : IsClosed "\x7ba\x7d\x7b\x7d\\" := by decide
  have hcut : ¬ ("\x7ba\x7d\x7b\x7d\\".toList.getLast? = some '\\' ∧
      startsWithBrace "é\x7bb\x7d".toList) := by decide
  obtain ⟨-, -, hmoved⟩ :=
    evaluate_append_of_isClosed hclosed hcut (Record.ofPairs [("a", "1")]) .raw
  exact ⟨hclosed, hcut,
    hmoved "1\x7b\x7d\\" ⟨3, 1, "b"⟩ (by decide +kernel) (by decide +kernel)⟩

end RecordTemplate
