import RecordTemplate.Proofs.JsonStrings

/-!
Numbers in JSON text, written and read again. A number is written part by part, and each part is
read back if the text goes on with a character that cannot belong to it: digits up to a character
that is none (`spanDigits_append`), a fraction up to an exponent or the end
(`Number.readFraction_append`), and an exponent up to the end (`Number.readExponent_append`). A
number that JSON allows (`Number.WellFormed`) is read back as a whole (`Number.read_chars_append`).
-/

set_option autoImplicit false
set_option relaxedAutoImplicit false

namespace RecordTemplate.Json

/-! ### Digits -/

theorem Digit.ofChar?_char : ∀ digit : Digit, Digit.ofChar? digit.char = some digit := by
  decide

/-- A text that does not go on with a digit. -/
def NoDigit (rest : List Char) : Prop :=
  ∀ c, rest.head? = some c → Digit.ofChar? c = none

theorem spanDigits_append {rest : List Char} (hrest : NoDigit rest) (digits : List Digit) :
    spanDigits (digits.map Digit.char ++ rest) = (digits, rest) := by
  induction digits with
  | nil =>
    cases rest with
    | nil => rfl
    | cons c rest =>
      have hc : Digit.ofChar? c = none := hrest c rfl
      simp only [List.map_nil, List.nil_append, spanDigits, hc]
  | cons digit digits ih =>
    simp only [List.map_cons, List.cons_append, spanDigits, Digit.ofChar?_char, ih]

namespace Number

variable {purpose : Purpose} {rest : List Char}

theorem readDigits_append (hrest : NoDigit rest) {digits : List Digit} (hdigits : digits ≠ []) :
    readDigits purpose (digits.map Digit.char ++ rest) = .ok (digits, rest) := by
  obtain ⟨first, others, rfl⟩ := List.exists_cons_of_ne_nil hdigits
  rw [readDigits, spanDigits_append hrest]

/-! ### Parts -/

/-- The written form of a fraction, with its point. -/
def fractionChars (digits : List Digit) : List Char :=
  if digits.isEmpty then [] else '.' :: digits.map Digit.char

/-- The written form of an exponent, if there is one. -/
def exponentChars : Option Exponent → List Char
  | none => []
  | some exponent =>
    'e' :: (if exponent.negative then ['-'] else []) ++ exponent.digits.map Digit.char

theorem chars_eq (number : Number) :
    number.chars = (if number.negative then ['-'] else []) ++
      (number.whole.map Digit.char ++
        (fractionChars number.fraction ++ exponentChars number.exponent?)) := by
  simp only [chars, List.append_assoc]
  rfl

theorem readWhole_append (hrest : NoDigit rest) {digits : List Digit} (hdigits : digits ≠ [])
    (hleading : ∀ others, digits = 0 :: others → others = []) :
    readWhole purpose (digits.map Digit.char ++ rest) = .ok (digits, rest) := by
  rw [readWhole, readDigits_append hrest hdigits]
  split
  · next heq =>
    obtain ⟨rfl, rfl⟩ := Prod.mk.inj (Except.ok.inj heq)
    exact absurd (hleading _ rfl) (List.cons_ne_nil _ _)
  · rfl

theorem readFraction_append (hdigit : NoDigit rest) (hpoint : rest.head? ≠ some '.')
    (digits : List Digit) :
    readFraction purpose (fractionChars digits ++ rest) = .ok (digits, rest) := by
  cases digits with
  | nil =>
    show readFraction purpose rest = _
    rw [readFraction.eq_def]
    split
    · exact absurd rfl hpoint
    · rfl
  | cons digit digits => exact readDigits_append hdigit (List.cons_ne_nil digit digits)

/-- A digit is no sign, so the digits of an exponent are not mistaken for its sign. -/
theorem readExponentSign_append (negative : Bool) {digits : List Digit} (hdigits : digits ≠ [])
    (rest : List Char) :
    readExponentSign ((if negative then ['-'] else []) ++ (digits.map Digit.char ++ rest)) =
      (negative, digits.map Digit.char ++ rest) := by
  cases negative with
  | true => rfl
  | false =>
    obtain ⟨first, others, rfl⟩ := List.exists_cons_of_ne_nil hdigits
    have hsign : ∀ digit : Digit, digit.char ≠ '-' ∧ digit.char ≠ '+' := by decide
    show readExponentSign (first.char :: _) = _
    rw [readExponentSign.eq_def]
    split
    · next heq => exact absurd (List.cons.inj heq).1 (hsign first).1
    · next heq => exact absurd (List.cons.inj heq).1 (hsign first).2
    · rfl

theorem readExponent_append (hdigit : NoDigit rest)
    (hmark : rest.head? ≠ some 'e' ∧ rest.head? ≠ some 'E') {exponent? : Option Exponent}
    (hdigits : ∀ exponent, exponent? = some exponent → exponent.digits ≠ []) :
    readExponent purpose (exponentChars exponent? ++ rest) = .ok (exponent?, rest) := by
  cases exponent? with
  | none =>
    show readExponent purpose rest = _
    rw [readExponent.eq_def]
    split
    · exact absurd rfl hmark.1
    · exact absurd rfl hmark.2
    · rfl
  | some exponent =>
    have hsign := readExponentSign_append exponent.negative (hdigits exponent rfl) rest
    have hread := @readDigits_append purpose _ hdigit _ (hdigits exponent rfl)
    show readExponent purpose
      ('e' :: ((if exponent.negative then ['-'] else []) ++ exponent.digits.map Digit.char ++
        rest)) = _
    rw [List.append_assoc, readExponent]
    simp only [hsign, hread]
    rfl

/-! ### Numbers -/

/-- What JSON asks of a number: a digit before the point and in the exponent, and no zero in front
of other digits. -/
structure WellFormed (number : Number) : Prop where
  whole_ne_nil : number.whole ≠ []
  leading_zero : ∀ others, number.whole = 0 :: others → others = []
  exponent_ne_nil : ∀ exponent, number.exponent? = some exponent → exponent.digits ≠ []

/-- A text that does not go on with a character that a number could go on with. -/
def Ends (rest : List Char) : Prop :=
  NoDigit rest ∧ rest.head? ≠ some '.' ∧ rest.head? ≠ some 'e' ∧ rest.head? ≠ some 'E'

theorem Ends.readUnsigned_append (hrest : Ends rest) {number : Number}
    (hnumber : number.WellFormed) :
    readUnsigned purpose number.negative (number.whole.map Digit.char ++
        (fractionChars number.fraction ++ (exponentChars number.exponent? ++ rest))) =
      .ok (number, rest) := by
  obtain ⟨hdigit, hpoint, hmark⟩ := hrest
  have hexponent : NoDigit (exponentChars number.exponent? ++ rest) ∧
      (exponentChars number.exponent? ++ rest).head? ≠ some '.' := by
    cases number.exponent? with
    | none => exact ⟨hdigit, hpoint⟩
    | some exponent =>
      refine ⟨fun c hc ↦ ?_, fun hc ↦ ?_⟩
      · obtain rfl : 'e' = c := Option.some.inj hc
        decide
      · exact absurd (Option.some.inj hc) (by decide)
  have hfraction : NoDigit (fractionChars number.fraction ++
      (exponentChars number.exponent? ++ rest)) := by
    cases number.fraction with
    | nil => exact hexponent.1
    | cons digit digits =>
      intro c hc
      obtain rfl : '.' = c := Option.some.inj hc
      decide
  rw [readUnsigned, readWhole_append hfraction hnumber.whole_ne_nil hnumber.leading_zero]
  show (readFraction purpose _ >>= _) = _
  rw [readFraction_append hexponent.1 hexponent.2]
  show (readExponent purpose _ >>= _) = _
  rw [readExponent_append hdigit hmark hnumber.exponent_ne_nil]
  rfl

/-- A number is read back from its written form, whether it is kept or passed over. -/
theorem read_chars_append {number : Number} (hnumber : number.WellFormed) (hrest : Ends rest) :
    read purpose (number.chars ++ rest) = .ok (number, rest) := by
  have hread := @Ends.readUnsigned_append purpose _ hrest _ hnumber
  have hminus : ∀ digit : Digit, digit.char ≠ '-' := by decide
  simp only [chars_eq, List.append_assoc]
  cases hnegative : number.negative with
  | true =>
    rw [hnegative] at hread
    exact hread
  | false =>
    rw [hnegative] at hread
    obtain ⟨first, others, hwhole⟩ := List.exists_cons_of_ne_nil hnumber.whole_ne_nil
    rw [hwhole] at hread ⊢
    show read purpose (first.char :: _) = _
    rw [read.eq_def]
    split
    · next heq => exact absurd (List.cons.inj heq).1 (hminus first)
    · exact hread

end Number

end RecordTemplate.Json
