import RecordTemplate.Proofs.ClosingBraces
import RecordTemplate.Proofs.Positions

/-!
What a parser makes of a source, told by tokens. At every moment the bytes that a parser has not
reached are those of a text, and the literal text that it has collected is that of some tokens
(`Parser.At`); what is still to come is then a matter of the tokens behind one another
(`Parser.outcome`). The offset at which the search for a closing brace stops is that of the first
bare closing token (`findClosingBrace?_eq_map`), and neither a jump to the next mark
(`Parser.At.readUpTo`) nor what is done with the mark (`Parser.At.hasOutcome_readMark`) changes the
outcome. So the segments of a source are those of the pieces that its tokens are read as
(`Template.parse_eq`).
-/

set_option autoImplicit false
set_option relaxedAutoImplicit false

namespace RecordTemplate

open Token

/-! ### Texts without marks -/

/-- A text with nothing but ordinary characters in it. -/
def IsPlain (text : List Char) : Prop :=
  ∀ c ∈ text, c ∉ ['\\', '{', '}']

theorem Token.scan_append_of_isPlain {text : List Char} (htext : IsPlain text)
    (rest : List Char) : scan (text ++ rest) = text.map plain ++ scan rest := by
  induction text with
  | nil => rfl
  | cons c text ih =>
    obtain ⟨hc, hothers⟩ := List.forall_mem_cons.mp htext
    simp only [List.mem_cons, List.not_mem_nil, or_false, not_or] at hc
    have hplain : ofChar c = plain c :=
      ofChar_eq_plain_iff.mpr ⟨rfl, Brace.ofChar?_eq_none_iff.mpr hc.2⟩
    rw [List.cons_append, scan_cons, ih hothers, attach_eq_cons fun h ↦ absurd h hc.1, hplain]
    rfl

namespace Token

theorem startsWithBrace_eq_true_iff {text : List Char} :
    startsWithBrace text ↔ ∃ brace : Brace, text.head? = some brace.char := by
  cases text with
  | nil => simp [startsWithBrace]
  | cons c text => simp [startsWithBrace, Option.isSome_iff_exists, Brace.ofChar?_eq_some_iff]

theorem scan_brace (brace : Brace) (rest : List Char) :
    scan (brace.char :: rest) = bare brace :: scan rest := by
  rw [scan_cons, attach_eq_cons fun hc ↦ absurd hc brace.char_ne_backslash, ofChar_char]

theorem scan_escape (brace : Brace) (rest : List Char) :
    scan ('\\' :: brace.char :: rest) = escaped brace :: scan rest := by
  rw [scan_cons, scan_brace]
  rfl

theorem scan_backslash {rest : List Char} (hrest : ∀ brace : Brace, rest.head? ≠ some brace.char) :
    scan ('\\' :: rest) = plain '\\' :: scan rest := by
  have hcut : ['\\'].getLast? = some '\\' → ¬ startsWithBrace rest := by
    intro _ hstart
    obtain ⟨brace, hbrace⟩ := startsWithBrace_eq_true_iff.mp hstart
    exact hrest brace hbrace
  exact scan_append hcut

end Token

theorem utf8Size_mark {c : Char} (hc : c ∈ ['\\', '{', '}']) : c.utf8Size = 1 := by
  simp only [List.mem_cons, List.not_mem_nil, or_false] at hc
  rcases hc with rfl | rfl | rfl <;> rfl

/-- A mark at an offset is a character of the source. -/
theorem isMarkAt_iff {source : String} {offset : Nat} :
    IsMarkAt ['\\', '{', '}'] source.toByteArray offset ↔
      ∃ before c after, source.toList = before ++ c :: after ∧ c ∈ ['\\', '{', '}'] ∧
        Text.byteSize before = offset := by
  constructor
  · rintro ⟨c, hc, hbyte⟩
    obtain ⟨before, after, hsource, hsize⟩ :=
      (Text.byteAt?_eq_some_iff (utf8Size_mark hc)).mp hbyte
    exact ⟨before, c, after, hsource, hc, hsize⟩
  · rintro ⟨before, c, after, hsource, hc, hsize⟩
    exact ⟨c, hc, (Text.byteAt?_eq_some_iff (utf8Size_mark hc)).mpr ⟨before, after, hsource, hsize⟩⟩

/-! ### Bytes behind an offset -/

section Rest

variable {source : String} {lead rest : List Char}

/-- The bytes of a source from the end of a part of it on are those of what stands behind. -/
theorem getElem?_toByteArray_add (hsource : source.toList = lead ++ rest) (offset : Nat) :
    source.toByteArray[Text.byteSize lead + offset]? =
      Text.byteAt? (String.ofList rest) offset := by
  change Text.byteAt? source (Text.byteSize lead + offset) = _
  have hle : (Text.bytes lead).length ≤ Text.byteSize lead + offset := by
    rw [Text.length_bytes]
    exact Nat.le_add_right _ _
  rw [Text.byteAt?_eq, Text.byteAt?_eq, hsource, String.toList_ofList, Text.bytes_append,
    List.getElem?_append_right hle, Text.length_bytes, Nat.add_sub_cancel_left]

theorem closesFrom_iff_isBare (hsource : source.toList = lead ++ rest) {offset : Nat} :
    ClosesFrom source.toByteArray (Text.byteSize lead) (Text.byteSize lead + offset) ↔
      IsBare (String.ofList rest) .closing offset := by
  have hbefore (hpos : 0 < offset) :
      source.toByteArray[Text.byteSize lead + offset - 1]? =
        Text.byteAt? (String.ofList rest) (offset - 1) := by
    rw [Nat.add_sub_assoc hpos, getElem?_toByteArray_add hsource]
  constructor
  · rintro ⟨-, hclosing, hescaped⟩
    refine ⟨by rw [← getElem?_toByteArray_add hsource]; exact hclosing, ?_⟩
    rintro ⟨hpos, hbackslash⟩
    exact hescaped ⟨by omega, by rwa [hbefore hpos]⟩
  · rintro ⟨hclosing, hescaped⟩
    refine ⟨Nat.le_add_right _ _, by rw [getElem?_toByteArray_add hsource]; exact hclosing, ?_⟩
    rintro ⟨hlt, hbackslash⟩
    have hpos : 0 < offset := by omega
    exact hescaped ⟨hpos, by rwa [← hbefore hpos]⟩

/-- The closing braces at which a search may stop are the bare closing tokens. -/
theorem closesFrom_iff (hsource : source.toList = lead ++ rest) {offset : Nat} :
    ClosesFrom source.toByteArray (Text.byteSize lead) offset ↔
      ∃ name after, scan rest = name ++ bare .closing :: after ∧
        Text.byteSize lead + writtenSize name = offset := by
  constructor
  · intro hcloses
    obtain ⟨size, rfl⟩ := Nat.exists_eq_add_of_le hcloses.start_le
    obtain ⟨name, after, hscan, rfl⟩ := isBare_iff.mp ((closesFrom_iff_isBare hsource).mp hcloses)
    rw [String.toList_ofList] at hscan
    exact ⟨name, after, hscan, rfl⟩
  · rintro ⟨name, after, hscan, rfl⟩
    rw [closesFrom_iff_isBare hsource, isBare_iff, String.toList_ofList]
    exact ⟨name, after, hscan, rfl⟩

/-- A search over the bytes of a source stops where the tokens behind its start have their first
bare closing brace. -/
theorem findClosingBrace?_eq_map (hsource : source.toList = lead ++ rest) :
    findClosingBrace? source.toByteArray (Text.byteSize lead) =
      (splitAtClosing? (scan rest)).map fun (name, _) ↦
        Text.byteSize lead + writtenSize name := by
  cases hsplit : splitAtClosing? (scan rest) with
  | none =>
    refine findClosingBrace?_eq_none_iff.mpr fun offset hcloses ↦ ?_
    obtain ⟨name, after, hscan, -⟩ := (closesFrom_iff hsource).mp hcloses
    refine splitAtClosing?_eq_none_iff.mp hsplit ?_
    rw [hscan]
    exact List.mem_append_right _ List.mem_cons_self
  | some split =>
    obtain ⟨name, after⟩ := split
    obtain ⟨hscan, hname⟩ := splitAtClosing?_eq_some_iff.mp hsplit
    refine findClosingBrace?_eq_some_iff.mpr
      ⟨(closesFrom_iff hsource).mpr ⟨name, after, hscan, rfl⟩, fun offset hcloses ↦ ?_⟩
    obtain ⟨other, behind, hother, rfl⟩ := (closesFrom_iff hsource).mp hcloses
    by_contra hlt
    -- a closing brace further in front would stand in the name
    obtain ⟨middle, rfl, -⟩ :=
      exists_middle_of_append_bare_eq (hother.symm.trans hscan) (by dsimp only at hlt; omega)
    exact hname (List.mem_append_right _ List.mem_cons_self)

end Rest

/-! ### What is still to come -/

namespace Parser

variable {source : String} {parser : Parser} {pending : List Token} {rest : List Char}

/-- A parser in the middle of a source. It has not reached the text `rest` yet, and the literal text
that it has collected is what the tokens `pending` stand for. -/
structure At (source : String) (parser : Parser) (pending : List Token) (rest : List Char) :
    Prop where
  reached : ∃ lead, source.toList = lead ++ rest ∧ Text.byteSize lead = parser.finger
  literal : parser.literal = String.ofList (pending.map Token.text)
  literalStart : parser.literalStart + writtenSize pending = parser.finger

/-- The segments of a source when a parser is through with it. -/
def outcome (parser : Parser) (pending : List Token) (rest : List Char) : List Segment :=
  parser.segments.toList ++ Segment.ofPieces parser.literalStart
    (pending.foldr Piece.prependLiteral (Piece.ofTokens (scan rest)))

/-- A parser in the middle of a source that will have some segments. -/
def HasOutcome (source : String) (parser : Parser) (segments : List Segment) : Prop :=
  ∃ pending rest, parser.At source pending rest ∧ parser.outcome pending rest = segments

theorem hasOutcome_start (source : String) :
    start.HasOutcome source (Segment.ofPieces 0 (Piece.ofTokens (scan source.toList))) :=
  ⟨[], source.toList, ⟨⟨[], rfl, rfl⟩, rfl, rfl⟩, rfl⟩

/-- More literal text that is read as literal tokens. -/
theorem At.readLiteral {tokens : List Token}
    (hat : parser.At source pending (tokens.flatMap Token.source ++ rest))
    (htokens : Piece.ofTokens (scan (tokens.flatMap Token.source ++ rest)) =
      tokens.foldr Piece.prependLiteral (Piece.ofTokens (scan rest))) {text : String}
    (htext : text = String.ofList (tokens.map Token.text)) {stop : Nat}
    (hstop : parser.finger + writtenSize tokens = stop) :
    (parser.readLiteral text stop).At source (pending ++ tokens) rest ∧
      (parser.readLiteral text stop).outcome (pending ++ tokens) rest =
        parser.outcome pending (tokens.flatMap Token.source ++ rest) := by
  obtain ⟨⟨lead, hsource, hlead⟩, hliteral, hstart⟩ := hat
  refine ⟨⟨⟨lead ++ tokens.flatMap Token.source, ?_, ?_⟩, ?_, ?_⟩, ?_⟩
  · rw [hsource, List.append_assoc]
  · rw [Text.byteSize_append, hlead]
    exact hstop
  · rw [List.map_append, String.ofList_append, ← hliteral, ← htext]
    rfl
  · rw [writtenSize_append, ← Nat.add_assoc]
    exact (congrArg (· + writtenSize tokens) hstart).trans hstop
  · rw [outcome, outcome, htokens, List.foldr_append]
    rfl

/-- The source up to the next mark is literal text. -/
theorem At.readUpTo {skipped : List Char} (hat : parser.At source pending (skipped ++ rest))
    (hskipped : IsPlain skipped) {stop : Nat}
    (hstop : parser.finger + Text.byteSize skipped = stop) :
    (parser.readUpTo source stop).At source (pending ++ skipped.map plain) rest ∧
      (parser.readUpTo source stop).outcome (pending ++ skipped.map plain) rest =
        parser.outcome pending (skipped ++ rest) := by
  have hwritten : (skipped.map plain).flatMap Token.source = skipped := by
    rw [List.flatMap_map]
    exact List.flatMap_singleton' skipped
  have hat' : parser.At source pending ((skipped.map plain).flatMap Token.source ++ rest) := by
    rwa [hwritten]
  have htokens : Piece.ofTokens (scan ((skipped.map plain).flatMap Token.source ++ rest)) =
      (skipped.map plain).foldr Piece.prependLiteral (Piece.ofTokens (scan rest)) := by
    rw [hwritten, scan_append_of_isPlain hskipped, Piece.ofTokens_append_of_not_mem (by simp)]
  have hslice : Text.slice source ⟨parser.finger, stop⟩ =
      String.ofList ((skipped.map plain).map Token.text) := by
    obtain ⟨lead, hsource, hlead⟩ := hat.reached
    rw [← hstop, ← hlead, Text.slice_eq_ofList (hsource.trans (List.append_assoc _ _ _).symm),
      List.map_map]
    exact congrArg String.ofList (List.map_id skipped).symm
  have hread := hat'.readLiteral htokens hslice (by rw [writtenSize, hwritten, hstop])
  rwa [hwritten] at hread

/-- The collected literal text becomes a segment if the pieces behind begin with none. -/
theorem At.flushLiteral (hat : parser.At source pending rest) {pieces : List Piece}
    (hpieces : ∀ piece ∈ pieces.head?, ¬ piece.IsLiteral) :
    (parser.flushLiteral parser.finger).literal = "" ∧
      (parser.flushLiteral parser.finger).segments.toList ++
          Segment.ofPieces parser.finger pieces =
        parser.segments.toList ++ Segment.ofPieces parser.literalStart
          (pending.foldr Piece.prependLiteral pieces) := by
  obtain ⟨-, hliteral, hstart⟩ := hat
  unfold Parser.flushLiteral
  split_ifs with hempty
  · have hpending : pending = [] := by
      rw [hliteral] at hempty
      simpa using hempty
    rw [hpending, writtenSize_nil, Nat.add_zero] at hstart
    rw [hpending, hstart]
    exact ⟨String.isEmpty_iff.mp hempty, rfl⟩
  · have hpending : pending ≠ [] := by
      rintro rfl
      rw [hliteral] at hempty
      exact hempty rfl
    refine ⟨rfl, ?_⟩
    rw [Piece.foldr_prependLiteral hpending hpieces, Segment.ofPieces, Piece.segment, Piece.source,
      ← hliteral]
    rw [writtenSize] at hstart
    simp [hstart]

/-- At the end of the source the collected literal text is the last segment. -/
theorem At.segments_flushLiteral (hat : parser.At source pending []) :
    (parser.flushLiteral source.toByteArray.size).segments.toList = parser.outcome pending [] := by
  have hfinger : parser.finger = source.toByteArray.size := by
    obtain ⟨lead, hsource, hlead⟩ := hat.reached
    rw [List.append_nil] at hsource
    rw [← hlead, ← hsource, Text.byteSize_toList]
    rfl
  have hflush : (parser.flushLiteral parser.finger).segments.toList ++
      Segment.ofPieces parser.finger [] = parser.outcome pending [] :=
    (hat.flushLiteral (by simp)).2
  rwa [Segment.ofPieces, List.append_nil, hfinger] at hflush

/-! ### Marks -/

/-- The byte behind what a parser has reached is that of the next character. -/
theorem At.byte_eq {c : Char} (hat : parser.At source pending (c :: rest)) (hc : c.utf8Size = 1) :
    source.toByteArray[parser.finger]? = some c.toUInt8 := by
  obtain ⟨lead, hsource, hlead⟩ := hat.reached
  exact (Text.byteAt?_eq_some_iff hc).mpr ⟨lead, rest, hsource, hlead⟩

/-- What stands behind the next character, and where it begins. -/
theorem At.exists_behind {c : Char} (hat : parser.At source pending (c :: rest))
    (hc : c.utf8Size = 1) :
    ∃ lead, source.toList = lead ++ rest ∧ Text.byteSize lead = parser.finger + 1 := by
  obtain ⟨lead, hsource, hlead⟩ := hat.reached
  refine ⟨lead ++ [c], by rw [hsource]; simp, ?_⟩
  rw [Text.byteSize_append, Text.byteSize_cons, hc, hlead, Text.byteSize_nil]

/-- A backslash escapes the brace that stands right behind it. -/
theorem At.escapedBrace?_eq_some_iff (hat : parser.At source pending ('\\' :: rest))
    {brace : Brace} :
    escapedBrace? source.toByteArray parser.finger = some brace ↔ rest.head? = some brace.char := by
  obtain ⟨lead, hsource, hlead⟩ := hat.exists_behind rfl
  rw [RecordTemplate.escapedBrace?_eq_some_iff, ← hlead, ← Nat.add_zero (Text.byteSize lead),
    getElem?_toByteArray_add hsource, Text.byteAt?_eq_some_iff brace.utf8Size_char,
    String.toList_ofList, List.head?_eq_some_iff]
  constructor
  · rintro ⟨before, after, hrest, hbefore⟩
    rw [Text.byteSize_eq_zero_iff.mp hbefore] at hrest
    exact ⟨after, hrest⟩
  · rintro ⟨after, hrest⟩
    exact ⟨[], after, hrest, rfl⟩

/-- A token of literal text. -/
theorem At.hasOutcome_readLiteral (token : Token)
    (hat : parser.At source pending (token.source ++ rest))
    (htoken : Piece.ofTokens (scan (token.source ++ rest)) =
      Piece.prependLiteral token (Piece.ofTokens (scan rest))) {stop : Nat}
    (hstop : parser.finger + Text.byteSize token.source = stop) :
    (parser.readLiteral token.text.toString stop).HasOutcome source
      (parser.outcome pending (token.source ++ rest)) := by
  rw [← List.flatMap_singleton Token.source token] at hat htoken hstop ⊢
  exact ⟨_, _, hat.readLiteral htoken rfl hstop⟩

theorem At.hasOutcome_backslash (hat : parser.At source pending ('\\' :: rest)) :
    (parser.readMark (fun _ ↦ findClosingBrace? source.toByteArray) source source.toByteArray
      parser.finger).HasOutcome source (parser.outcome pending ('\\' :: rest)) := by
  rw [readMark, if_pos (hat.byte_eq rfl)]
  cases hescaped : escapedBrace? source.toByteArray parser.finger with
  | none =>
    have hscan : scan ('\\' :: rest) = plain '\\' :: scan rest := by
      refine scan_backslash fun brace hbrace ↦ ?_
      rw [← hat.escapedBrace?_eq_some_iff, hescaped] at hbrace
      contradiction
    refine At.hasOutcome_readLiteral (plain '\\') hat ?_ rfl
    exact (congrArg Piece.ofTokens hscan).trans (Piece.ofTokens_cons_of_ne (by simp) _)
  | some brace =>
    obtain ⟨after, rfl⟩ := List.head?_eq_some_iff.mp (hat.escapedBrace?_eq_some_iff.mp hescaped)
    refine At.hasOutcome_readLiteral (escaped brace) hat ?_ (by cases brace <;> rfl)
    exact (congrArg Piece.ofTokens (scan_escape brace after)).trans
      (Piece.ofTokens_cons_of_ne (by simp) _)

/-- A closing brace that delimits no name is literal text. -/
theorem At.hasOutcome_closing (hat : parser.At source pending ('}' :: rest)) :
    (parser.readMark (fun _ ↦ findClosingBrace? source.toByteArray) source source.toByteArray
      parser.finger).HasOutcome source (parser.outcome pending ('}' :: rest)) := by
  have hbyte := hat.byte_eq rfl
  rw [readMark, if_neg (by rw [hbyte]; decide), if_neg (by rw [hbyte]; decide)]
  refine At.hasOutcome_readLiteral (bare .closing) hat ?_ rfl
  exact (congrArg Piece.ofTokens (scan_brace .closing rest)).trans
    (Piece.ofTokens_cons_of_ne (by simp) _)

/-- An opening brace without a name behind it is literal text. -/
theorem At.hasOutcome_opening_literal (hat : parser.At source pending ('{' :: rest))
    (hname : ∀ name after, splitAtClosing? (scan rest) = some (name, after) → name = []) :
    (parser.readLiteral '{'.toString (parser.finger + 1)).HasOutcome source
      (parser.outcome pending ('{' :: rest)) := by
  refine At.hasOutcome_readLiteral (bare .opening) hat ?_ rfl
  refine (congrArg Piece.ofTokens (scan_brace .opening rest)).trans ?_
  rw [Piece.ofTokens_cons_opening]
  split
  · next first name after hsplit => exact absurd (hname _ _ hsplit) (List.cons_ne_nil _ _)
  · rfl

/-- A note that a search has failed changes nothing about what is still to come. -/
theorem HasOutcome.unclosed {segments : List Segment}
    (houtcome : parser.HasOutcome source segments) :
    { parser with unclosed := true }.HasOutcome source segments := by
  obtain ⟨pending, rest, ⟨hreached, hliteral, hstart⟩, hsegments⟩ := houtcome
  exact ⟨pending, rest, ⟨hreached, hliteral, hstart⟩, hsegments⟩

/-- The name in a source is that of the tokens, its escapes resolved. -/
theorem At.text_name (hat : parser.At source pending ('{' :: rest)) {name : List Token}
    {after : List Char} (hscanned : Scanned name)
    (hrest : rest = name.flatMap Token.source ++ '}' :: after) :
    unescapeBraces (Text.slice source
        ⟨parser.finger + 1, parser.finger + 1 + writtenSize name⟩).toList =
      name.map Token.text := by
  obtain ⟨lead, hsource, hlead⟩ := hat.exists_behind rfl
  have hcut : source.toList = lead ++ name.flatMap Token.source ++ '}' :: after := by
    rw [hsource, hrest, List.append_assoc]
  rw [← hlead, writtenSize, Text.slice_eq_ofList hcut, String.toList_ofList, ← map_text_scan,
    hscanned.scan_flatMap_source]

theorem ofTokens_scan_opening {name after : List Token}
    (hsplit : splitAtClosing? (scan rest) = some (name, after)) (hname : name ≠ []) :
    Piece.ofTokens (scan ('{' :: rest)) = Piece.reference name :: Piece.ofTokens after := by
  obtain ⟨first, others, rfl⟩ := List.exists_cons_of_ne_nil hname
  have hopening : scan ('{' :: rest) = bare .opening :: scan rest := scan_brace .opening rest
  rw [hopening, Piece.ofTokens_cons_opening, hsplit]

/-- A name that is not empty, up to the first closing brace, makes a reference. -/
theorem At.hasOutcome_reference (hat : parser.At source pending ('{' :: rest))
    {name after : List Token} (hsplit : splitAtClosing? (scan rest) = some (name, after))
    (hname : name ≠ []) :
    ((parser.flushLiteral parser.finger).readReference source
      ⟨parser.finger + 1, parser.finger + 1 + writtenSize name⟩).HasOutcome source
        (parser.outcome pending ('{' :: rest)) := by
  obtain ⟨hscan, -⟩ := splitAtClosing?_eq_some_iff.mp hsplit
  obtain ⟨hrest, -⟩ := source_of_scan_eq_append hscan
  have hscanned := scanned_scan rest
  rw [hscan] at hscanned
  have hafter : scan (after.flatMap Token.source) = after := by
    rw [← List.singleton_append] at hscanned
    exact hscanned.right.right.scan_flatMap_source
  have hsize : parser.finger + Text.byteSize (Piece.reference name).source =
      parser.finger + 1 + writtenSize name + 1 := by
    rw [Piece.source, Text.byteSize_append, Text.byteSize_cons, ← Nat.add_assoc, ← Nat.add_assoc]
    rfl
  have hreference : ∀ piece ∈ (Piece.reference name :: Piece.ofTokens after).head?,
      ¬ piece.IsLiteral := by
    simp [Piece.IsLiteral]
  obtain ⟨hliteral, hsegments⟩ := hat.flushLiteral hreference
  refine ⟨[], after.flatMap Token.source, ⟨?_, hliteral, rfl⟩, ?_⟩
  · obtain ⟨lead, hsource, hlead⟩ := hat.exists_behind rfl
    refine ⟨lead ++ name.flatMap Token.source ++ ['}'], ?_, ?_⟩
    · rw [hsource, hrest]
      simp [Brace.char]
    · rw [Text.byteSize_append, Text.byteSize_append, hlead]
      rfl
  · rw [outcome, outcome, ofTokens_scan_opening hsplit hname, ← hsegments, hafter,
      List.foldr_nil, readReference, Array.toList_push, List.append_assoc, List.singleton_append,
      hat.text_name hscanned.left hrest, Segment.ofPieces, Piece.segment, hsize]
    rfl

/-- The search at an opening brace stops where the tokens behind it have their first bare closing
brace. -/
theorem At.findClosingBrace?_eq (hat : parser.At source pending ('{' :: rest)) :
    findClosingBrace? source.toByteArray (parser.finger + 1) =
      (splitAtClosing? (scan rest)).map fun (name, _) ↦ parser.finger + 1 + writtenSize name := by
  obtain ⟨lead, hsource, hlead⟩ := hat.exists_behind rfl
  rw [← hlead, findClosingBrace?_eq_map hsource]

theorem At.hasOutcome_opening (hat : parser.At source pending ('{' :: rest)) :
    (parser.readMark (fun _ ↦ findClosingBrace? source.toByteArray) source source.toByteArray
      parser.finger).HasOutcome source (parser.outcome pending ('{' :: rest)) := by
  have hbyte := hat.byte_eq rfl
  rw [readMark, if_neg (by rw [hbyte]; decide), if_pos hbyte, hat.findClosingBrace?_eq]
  cases hsplit : splitAtClosing? (scan rest) with
  | none =>
    refine (hat.hasOutcome_opening_literal fun name after hname ↦ ?_).unclosed
    rw [hsplit] at hname
    contradiction
  | some split =>
    obtain ⟨name, after⟩ := split
    rw [Option.map_some]
    dsimp only
    split_ifs with hlt
    · refine hat.hasOutcome_reference hsplit ?_
      rintro rfl
      exact absurd hlt (Nat.lt_irrefl _)
    · refine hat.hasOutcome_opening_literal fun other behind hother ↦ ?_
      rw [hsplit] at hother
      obtain ⟨rfl, -⟩ := Prod.mk.inj (Option.some.inj hother)
      exact writtenSize_eq_zero_iff.mp (by omega)

/-- What is done with a mark changes nothing about the outcome. -/
theorem At.hasOutcome_readMark {c : Char} (hat : parser.At source pending (c :: rest))
    (hc : c ∈ ['\\', '{', '}']) :
    (parser.readMark (fun _ ↦ findClosingBrace? source.toByteArray) source source.toByteArray
      parser.finger).HasOutcome source (parser.outcome pending (c :: rest)) := by
  simp only [List.mem_cons, List.not_mem_nil, or_false] at hc
  rcases hc with rfl | rfl | rfl
  · exact hat.hasOutcome_backslash
  · exact hat.hasOutcome_opening
  · exact hat.hasOutcome_closing

/-! ### Steps and runs -/

theorem At.finger_add (hat : parser.At source pending rest) :
    parser.finger + Text.byteSize rest = source.toByteArray.size := by
  obtain ⟨lead, hsource, hlead⟩ := hat.reached
  rw [← hlead, ← Text.byteSize_append, ← hsource, Text.byteSize_toList]
  rfl

/-- Characters where there are no marks are ordinary ones. -/
theorem At.isPlain {skipped : List Char} (hat : parser.At source pending (skipped ++ rest))
    (hmarks : ∀ offset, parser.finger ≤ offset → offset < parser.finger + Text.byteSize skipped →
      ¬ IsMarkAt ['\\', '{', '}'] source.toByteArray offset) : IsPlain skipped := by
  obtain ⟨lead, hsource, hlead⟩ := hat.reached
  intro c hc hmark
  obtain ⟨first, second, rfl⟩ := List.append_of_mem hc
  have hpos := c.utf8Size_pos
  refine hmarks (Text.byteSize (lead ++ first)) ?_ ?_
    (isMarkAt_iff.mpr ⟨lead ++ first, c, second ++ rest, ?_, hmark, rfl⟩)
  · rw [Text.byteSize_append, hlead]
    exact Nat.le_add_right _ _
  · rw [Text.byteSize_append, Text.byteSize_append, Text.byteSize_cons, hlead]
    omega
  · rw [hsource]
    simp

/-- What stands up to the next mark, and the mark. -/
theorem At.exists_mark (hat : parser.At source pending rest) {mark : Nat}
    (hmark : nextMark? ['\\', '{', '}'] source.toByteArray parser.finger = some mark) :
    ∃ skipped c after, rest = skipped ++ c :: after ∧ IsPlain skipped ∧ c ∈ ['\\', '{', '}'] ∧
      parser.finger + Text.byteSize skipped = mark := by
  obtain ⟨before, c, after, hsource, hc, hbefore⟩ :=
    isMarkAt_iff.mp (isMarkAt_of_nextMark? hmark)
  obtain ⟨lead, hrest, hlead⟩ := hat.reached
  obtain ⟨skipped, rfl, rfl⟩ := Text.exists_middle_of_append_eq (hrest.symm.trans hsource)
    (by rw [hlead, hbefore]; exact (nextMark?_bounds hmark).1)
  rw [Text.byteSize_append, hlead] at hbefore
  refine ⟨skipped, c, after, rfl, hat.isPlain fun offset hfinger hlt ↦ ?_, hc, hbefore⟩
  exact not_isMarkAt_of_lt hmark hfinger (hbefore ▸ hlt)

/-- A jump to the next mark, and what is done with the mark, change nothing about the outcome. -/
theorem HasOutcome.readMark {segments : List Segment}
    (houtcome : parser.HasOutcome source segments) {mark : Nat}
    (hmark : nextMark? ['\\', '{', '}'] source.toByteArray parser.finger = some mark) :
    ((parser.readUpTo source mark).readMark (fun _ ↦ findClosingBrace? source.toByteArray) source
      source.toByteArray mark).HasOutcome source segments := by
  obtain ⟨pending, rest, hat, rfl⟩ := houtcome
  obtain ⟨skipped, c, after, rfl, hskipped, hc, hsize⟩ := hat.exists_mark hmark
  obtain ⟨hnext, hsegments⟩ := hat.readUpTo hskipped hsize
  rw [← hsegments]
  exact hnext.hasOutcome_readMark hc

/-- Where no mark is left, the rest of the source is literal text. -/
theorem HasOutcome.segments_readUpTo {segments : List Segment}
    (houtcome : parser.HasOutcome source segments)
    (hmark : nextMark? ['\\', '{', '}'] source.toByteArray parser.finger = none) :
    ((parser.readUpTo source source.toByteArray.size).flushLiteral
      source.toByteArray.size).segments.toList = segments := by
  obtain ⟨pending, rest, hat, rfl⟩ := houtcome
  rw [← List.append_nil rest] at hat ⊢
  have hplain : IsPlain rest :=
    hat.isPlain fun offset hfinger _ ↦ not_isMarkAt_of_none hmark hfinger
  have hsize := hat.finger_add
  rw [List.append_nil] at hsize
  obtain ⟨hnext, hsegments⟩ := hat.readUpTo hplain hsize
  rw [← hsegments]
  exact hnext.segments_flushLiteral

/-- A run ends with the segments that were to come from the start. -/
theorem HasOutcome.segments_run {segments : List Segment}
    (houtcome : parser.HasOutcome source segments) :
    ((parser.run (fun _ ↦ findClosingBrace? source.toByteArray) source
      source.toByteArray).flushLiteral source.toByteArray.size).segments.toList = segments := by
  fun_induction run (fun _ ↦ findClosingBrace? source.toByteArray) source source.toByteArray
    parser with
  | case1 parser hsize hmark => exact houtcome.segments_readUpTo hmark
  | case2 parser hsize mark hmark ih => exact ih (houtcome.readMark hmark)
  | case3 parser hsize =>
    obtain ⟨pending, rest, hat, rfl⟩ := houtcome
    have hrest : rest = [] := by
      have hadd := hat.finger_add
      exact Text.byteSize_eq_zero_iff.mp (by omega)
    subst hrest
    exact hat.segments_flushLiteral

end Parser

/-- The segments of a source are those of the pieces that its tokens are read as. -/
theorem Template.parse_eq (source : String) :
    parse source = ⟨source, Segment.ofPieces 0 (Piece.ofTokens (scan source.toList))⟩ := by
  have hsegments := (Parser.hasOutcome_start source).segments_run
  have hfresh := segments_parse_eq_segmentsBy source
  rw [segmentsBy, hsegments] at hfresh
  rw [← hfresh]
  rfl

theorem Template.segments_parse (source : String) :
    (parse source).segments = Segment.ofPieces 0 (Piece.ofTokens (scan source.toList)) :=
  congrArg segments (parse_eq source)

end RecordTemplate
