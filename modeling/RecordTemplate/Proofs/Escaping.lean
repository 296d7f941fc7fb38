import Mathlib.Data.List.Chain
import RecordTemplate.Proofs.Tokens

/-!
Escaping as a property of texts. Literally read, a text loses each backslash right before a brace
(`unescapeBraces`); scanning reads it so, token by token (`map_text_scan`). The token lists that
scanning makes are told by looking at two neighbours at a time (`Token.Scanned`): no plain token is
a brace, and no plain backslash stands before a bare brace. Every stretch of such a list is one
again, so scanning a stretch of a text that was cut between tokens gives that stretch of its tokens
(`Scanned.scan_flatMap_source`), and no bare brace has a backslash before it
(`Scanned.getLast?_ne_backslash`).
-/

set_option autoImplicit false
set_option relaxedAutoImplicit false

namespace RecordTemplate

namespace Brace

@[simp] theorem ofChar?_char (brace : Brace) : ofChar? brace.char = some brace :=
  ofChar?_eq_some_iff.mpr rfl

theorem char_ne_backslash (brace : Brace) : brace.char ≠ '\\' := by
  cases brace <;> decide

theorem utf8Size_char (brace : Brace) : brace.char.utf8Size = 1 := by
  cases brace <;> rfl

end Brace

namespace Token

@[simp] theorem ofChar_char (brace : Brace) : ofChar brace.char = bare brace := by
  simp [ofChar]

theorem ofChar_eq_plain_iff {c d : Char} :
    ofChar c = plain d ↔ c = d ∧ Brace.ofChar? c = none := by
  rw [ofChar]
  cases Brace.ofChar? c <;> simp

theorem ofChar_eq_bare_iff {c : Char} {brace : Brace} : ofChar c = bare brace ↔ c = brace.char := by
  rw [← Brace.ofChar?_eq_some_iff, ofChar]
  cases Brace.ofChar? c <;> simp

@[simp] theorem text_ofChar (c : Char) : (ofChar c).text = c := by
  unfold ofChar
  split
  · next brace hbrace => exact (Brace.ofChar?_eq_some_iff.mp hbrace).symm
  · rfl

theorem text_eq_backslash_iff {token : Token} : token.text = '\\' ↔ token = plain '\\' := by
  cases token with
  | plain c => simp [text]
  | escaped brace => simp [text, Brace.char_ne_backslash]
  | bare brace => simp [text, Brace.char_ne_backslash]

/-! ### Scanning -/

/-- All that one more character in front can do: a backslash escapes a bare brace right behind it,
and every other character is a token of its own. -/
theorem attach_cases (c : Char) (tokens : List Token) :
    (∃ brace rest, c = '\\' ∧ tokens = bare brace :: rest ∧
        attach c tokens = escaped brace :: rest) ∨
      (c = '\\' → ∀ brace, tokens.head? ≠ some (bare brace)) ∧
        attach c tokens = ofChar c :: tokens := by
  unfold attach
  split
  · next brace rest =>
    split
    · next hc => exact Or.inl ⟨brace, rest, hc, rfl, rfl⟩
    · next hc => exact Or.inr ⟨fun hbackslash ↦ absurd hbackslash hc, rfl⟩
  · next hbare =>
    refine Or.inr ⟨fun _ brace hhead ↦ ?_, rfl⟩
    obtain ⟨rest, hrest⟩ := List.head?_eq_some_iff.mp hhead
    exact hbare brace rest hrest

theorem attach_eq_cons {c : Char} {tokens : List Token}
    (htokens : c = '\\' → ∀ brace, tokens.head? ≠ some (bare brace)) :
    attach c tokens = ofChar c :: tokens := by
  rcases attach_cases c tokens with ⟨brace, rest, hc, rfl, -⟩ | ⟨-, hattach⟩
  · exact absurd rfl (htokens hc brace)
  · exact hattach

/-- What a text begins with shows in its first token. -/
theorem startsWithBrace_iff {text : List Char} :
    startsWithBrace text ↔ ∃ brace, (scan text).head? = some (bare brace) := by
  cases text with
  | nil => simp [startsWithBrace]
  | cons c text =>
    rw [scan_cons, startsWithBrace, Option.isSome_iff_exists]
    simp only [Brace.ofChar?_eq_some_iff]
    rcases attach_cases c (scan text) with ⟨brace, rest, rfl, -, hattach⟩ | ⟨-, hattach⟩
    · simp [hattach, (Brace.char_ne_backslash _).symm]
    · simp [hattach, ofChar_eq_bare_iff]

/-- Read literally, the tokens of a text are the text without its escaping backslashes. -/
theorem map_text_scan (text : List Char) : (scan text).map Token.text = unescapeBraces text := by
  induction text with
  | nil => rfl
  | cons c text ih =>
    rw [scan_cons, unescapeBraces, ← ih]
    rcases attach_cases c (scan text) with ⟨brace, rest, rfl, hscan, hattach⟩ | ⟨hother, hattach⟩
    · have hstart : startsWithBrace text := startsWithBrace_iff.mpr ⟨brace, by rw [hscan]; rfl⟩
      rw [hattach, hscan, if_pos ⟨rfl, hstart⟩]
      rfl
    · have hstart : ¬ (c = '\\' ∧ startsWithBrace text) := by
        intro hescapes
        obtain ⟨hc, hbrace⟩ := hescapes
        obtain ⟨brace, hhead⟩ := startsWithBrace_iff.mp hbrace
        exact hother hc brace hhead
      rw [hattach, if_neg hstart, List.map_cons, text_ofChar]

/-- No backslash that could escape it stands right before a bare brace. -/
def Apart (first second : Token) : Prop :=
  first = plain '\\' → ∀ brace, second ≠ bare brace

/-- Tokens as scanning leaves them. -/
structure Scanned (tokens : List Token) : Prop where
  plain_ne_brace : ∀ c, plain c ∈ tokens → Brace.ofChar? c = none
  apart : tokens.IsChain Apart

namespace Scanned

variable {first second tokens : List Token}

theorem nil : Scanned [] := ⟨by simp, List.isChain_nil⟩

theorem append_iff :
    Scanned (first ++ second) ↔ Scanned first ∧ Scanned second ∧
      ∀ token ∈ first.getLast?, ∀ next ∈ second.head?, Apart token next := by
  constructor
  · intro h
    obtain ⟨hplain, hapart⟩ := h
    obtain ⟨hfirst, hsecond, hseam⟩ := List.isChain_append.mp hapart
    exact ⟨⟨fun c hc ↦ hplain c (List.mem_append_left _ hc), hfirst⟩,
      ⟨fun c hc ↦ hplain c (List.mem_append_right _ hc), hsecond⟩, hseam⟩
  · intro h
    obtain ⟨hfirst, hsecond, hseam⟩ := h
    refine ⟨fun c hc ↦ ?_, List.isChain_append.mpr ⟨hfirst.apart, hsecond.apart, hseam⟩⟩
    exact (List.mem_append.mp hc).elim (hfirst.plain_ne_brace c) (hsecond.plain_ne_brace c)

theorem left (h : Scanned (first ++ second)) : Scanned first := (append_iff.mp h).1

theorem right (h : Scanned (first ++ second)) : Scanned second := (append_iff.mp h).2.1

end Scanned

/-- Scanning a text leaves scanned tokens. -/
theorem scanned_scan (text : List Char) : Scanned (scan text) := by
  induction text with
  | nil => exact Scanned.nil
  | cons c text ih =>
    rw [scan_cons]
    rcases attach_cases c (scan text) with ⟨brace, rest, -, hscan, hattach⟩ | ⟨hother, hattach⟩
    · rw [hscan, ← List.singleton_append] at ih
      rw [hattach, ← List.singleton_append]
      refine Scanned.append_iff.mpr ⟨⟨by simp, List.isChain_singleton _⟩, ih.right, ?_⟩
      simp [Apart]
    · rw [hattach, ← List.singleton_append]
      refine Scanned.append_iff.mpr ⟨⟨fun d hd ↦ ?_, List.isChain_singleton _⟩, ih, ?_⟩
      · obtain ⟨rfl, hplain⟩ := ofChar_eq_plain_iff.mp (List.mem_singleton.mp hd).symm
        exact hplain
      · intro token htoken next hnext hbackslash brace hbare
        rw [List.getLast?_singleton, Option.mem_some_iff] at htoken
        rw [← htoken] at hbackslash
        rw [hbare] at hnext
        exact hother (ofChar_eq_plain_iff.mp hbackslash).1 brace hnext

/-- Scanned tokens are the tokens of the text that they are written as. -/
theorem Scanned.scan_flatMap_source {tokens : List Token} (h : Scanned tokens) :
    scan (tokens.flatMap source) = tokens := by
  induction tokens with
  | nil => rfl
  | cons token tokens ih =>
    rw [← List.singleton_append] at h
    have hrest := ih h.right
    obtain ⟨hfirst, -, hseam⟩ := Scanned.append_iff.mp h
    rw [List.flatMap_cons]
    cases token with
    | plain c =>
      have hother : c = '\\' → ∀ brace, tokens.head? ≠ some (bare brace) := by
        rintro rfl brace hhead
        exact hseam _ rfl _ hhead rfl brace rfl
      rw [source, List.singleton_append, scan_cons, hrest, attach_eq_cons hother]
      exact congrArg (· :: tokens) (ofChar_eq_plain_iff.mpr
        ⟨rfl, hfirst.plain_ne_brace c (List.mem_singleton_self _)⟩)
    | escaped brace =>
      have hbare : attach brace.char tokens = bare brace :: tokens := by
        rw [attach_eq_cons fun hc ↦ absurd hc brace.char_ne_backslash, ofChar_char]
      rw [source, List.cons_append, List.singleton_append, scan_cons, scan_cons, hrest, hbare]
      rfl
    | bare brace =>
      rw [source, List.singleton_append, scan_cons, hrest,
        attach_eq_cons fun hc ↦ absurd hc brace.char_ne_backslash, ofChar_char]

theorem flatMap_source_eq_nil_iff {tokens : List Token} :
    tokens.flatMap source = [] ↔ tokens = [] := by
  constructor
  · intro hempty
    rw [List.flatMap_eq_nil_iff] at hempty
    refine List.eq_nil_iff_forall_not_mem.mpr fun token htoken ↦ ?_
    cases token <;> exact List.cons_ne_nil _ _ (hempty _ htoken)
  · intro hempty
    rw [hempty, List.flatMap_nil]

theorem getLast?_map_text_eq_backslash_iff {tokens : List Token} :
    (tokens.map text).getLast? = some '\\' ↔ tokens.getLast? = some (plain '\\') := by
  rw [List.getLast?_map, Option.map_eq_some_iff]
  constructor
  · intro hmap
    obtain ⟨token, hlast, htext⟩ := hmap
    rw [hlast, text_eq_backslash_iff.mp htext]
  · intro hlast
    exact ⟨plain '\\', hlast, rfl⟩

/-- Tokens are written with the characters at their end that they stand for. -/
theorem getLast?_flatMap_source (tokens : List Token) :
    (tokens.flatMap source).getLast? = (tokens.map text).getLast? := by
  induction tokens using List.reverseRecOn with
  | nil => rfl
  | append_singleton tokens token =>
    rw [List.flatMap_append, List.flatMap_singleton, List.getLast?_append, List.map_append,
      List.getLast?_append]
    cases token <;> rfl

/-- No plain backslash stands right before a bare brace. -/
theorem Scanned.getLast?_ne_backslash {first rest : List Token} {brace : Brace}
    (h : Scanned (first ++ bare brace :: rest)) : first.getLast? ≠ some (plain '\\') :=
  fun hlast ↦ (append_iff.mp h).2.2 _ hlast (bare brace) rfl rfl brace rfl

/-- A text can be scanned in two stretches if no backslash before the cut escapes a brace behind
it. -/
theorem scan_append {first second : List Char}
    (hcut : first.getLast? = some '\\' → ¬ startsWithBrace second) :
    scan (first ++ second) = scan first ++ scan second := by
  have hscanned : Scanned (scan first ++ scan second) := by
    refine Scanned.append_iff.mpr ⟨scanned_scan first, scanned_scan second, ?_⟩
    rintro token htoken next hnext rfl brace rfl
    have hlast := getLast?_map_text_eq_backslash_iff.mpr htoken
    rw [← getLast?_flatMap_source, flatMap_source_scan] at hlast
    exact hcut hlast (startsWithBrace_iff.mpr ⟨brace, hnext⟩)
  simpa using hscanned.scan_flatMap_source

/-- A brace with no backslash before it is bare, and cuts the scanning of a text in two. -/
theorem scan_append_brace {first : List Char} (hlast : first.getLast? ≠ some '\\') (brace : Brace)
    (second : List Char) :
    scan (first ++ brace.char :: second) = scan first ++ bare brace :: scan second := by
  rw [scan_append fun hbackslash ↦ absurd hbackslash hlast, scan_cons,
    attach_eq_cons fun hc ↦ absurd hc brace.char_ne_backslash, ofChar_char]

/-- A bare token is a brace of the text with no backslash before it. -/
theorem source_of_scan_eq_append {text : List Char} {before after : List Token} {brace : Brace}
    (hscan : scan text = before ++ bare brace :: after) :
    text = before.flatMap source ++ brace.char :: after.flatMap source ∧
      (before.flatMap source).getLast? ≠ some '\\' := by
  constructor
  · rw [← flatMap_source_scan text, hscan, List.flatMap_append]
    rfl
  · have hscanned := scanned_scan text
    rw [hscan] at hscanned
    rw [getLast?_flatMap_source, Ne, getLast?_map_text_eq_backslash_iff]
    exact hscanned.getLast?_ne_backslash

/-! ### Literal text -/

/-- The token by which a character is written literally. -/
def literal (c : Char) : Token :=
  match Brace.ofChar? c with
  | some brace => escaped brace
  | none => plain c

@[simp] theorem text_literal (c : Char) : (literal c).text = c := by
  unfold literal
  split
  · next brace hbrace => exact (Brace.ofChar?_eq_some_iff.mp hbrace).symm
  · rfl

theorem literal_ne_bare (c : Char) (brace : Brace) : literal c ≠ bare brace := by
  unfold literal
  split <;> simp

/-- Escaping the braces of a text writes each character literally. -/
theorem flatMap_source_map_literal (text : List Char) :
    (text.map literal).flatMap source = escapeBraces text := by
  rw [List.flatMap_map, escapeBraces]
  congr 1
  funext c
  unfold literal
  split
  · next brace hbrace => simp [source, Brace.ofChar?_eq_some_iff.mp hbrace]
  · next hplain => simp [hplain, source]

theorem scanned_map_literal (text : List Char) : Scanned (text.map literal) := by
  constructor
  · intro c hc
    obtain ⟨d, -, hd⟩ := List.mem_map.mp hc
    unfold literal at hd
    split at hd
    · contradiction
    · next hplain => exact (plain.inj hd) ▸ hplain
  · rw [List.isChain_map]
    exact (List.pairwise_of_forall fun _ d _ brace ↦ literal_ne_bare d brace).isChain

end Token

end RecordTemplate
