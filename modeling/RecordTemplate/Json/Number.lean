import RecordTemplate.Json.Fault

/-!
Numbers in JSON: their written form (`Number`), how it is read (`Number.read`) and what it stands
for (`Number.value`). A number without fraction and exponent that fits into 64 bits is an integer;
every other number is a floating-point number of double precision.
-/

set_option autoImplicit false
set_option relaxedAutoImplicit false

namespace RecordTemplate.Json

/-! ### Written form -/

abbrev Digit := Fin 10

def Digit.ofChar? (c : Char) : Option Digit :=
  if h : '0' ≤ c ∧ c ≤ '9' then
    some ⟨c.toNat - '0'.toNat, by
      have hc : c.toNat ≤ '9'.toNat := h.2
      have h9 : '9'.toNat = '0'.toNat + 9 := rfl
      omega⟩
  else none

def Digit.char (digit : Digit) : Char := Nat.digitChar digit

/-- The digits that a text starts with, and the rest of the text. -/
def spanDigits : List Char → List Digit × List Char
  | [] => ([], [])
  | c :: text =>
    match Digit.ofChar? c with
    | none => ([], c :: text)
    | some digit =>
      let (digits, rest) := spanDigits text
      (digit :: digits, rest)

theorem spanDigits_length (text : List Char) :
    (spanDigits text).1.length + (spanDigits text).2.length = text.length := by
  induction text with
  | nil => rfl
  | cons c text ih =>
    rw [spanDigits]
    split
    · simp
    · simp only [List.length_cons]
      omega

structure Exponent where
  negative : Bool
  digits : List Digit
  deriving DecidableEq, Repr

def Exponent.value (exponent : Exponent) : Int :=
  let magnitude : Nat := exponent.digits.foldl (fun value digit ↦ value * 10 + digit.val) 0
  if exponent.negative then -magnitude else magnitude

/-- A number as it is written. Without digits in the fraction there is no decimal point. -/
structure Number where
  negative : Bool
  whole : List Digit
  fraction : List Digit
  exponent? : Option Exponent
  deriving DecidableEq, Repr

namespace Number

def chars (number : Number) : List Char :=
  (if number.negative then ['-'] else []) ++ number.whole.map Digit.char ++
    (if number.fraction.isEmpty then [] else '.' :: number.fraction.map Digit.char) ++
    match number.exponent? with
    | none => []
    | some exponent =>
      'e' :: (if exponent.negative then ['-'] else []) ++ exponent.digits.map Digit.char

/-! ### Reading -/

/-- The fault of a number that has no digit where one is needed. Only a number that is kept makes a
difference if the text ends there. -/
def digitFault (purpose : Purpose) (rest : List Char) : Fault :=
  if purpose = .keep ∧ rest = [] then .truncated else .malformed

/-- One digit or more. -/
def readDigits (purpose : Purpose) (text : List Char) : Except Fault (List Digit × List Char) :=
  match spanDigits text with
  | ([], rest) => .error (digitFault purpose rest)
  | (first :: digits, rest) => .ok (first :: digits, rest)

/-- The digits before the point. A leading zero stands alone. -/
def readWhole (purpose : Purpose) (text : List Char) : Except Fault (List Digit × List Char) :=
  match readDigits purpose text with
  | .ok (0 :: _ :: _, _) => .error .malformed
  | result => result

def readFraction (purpose : Purpose) (text : List Char) : Except Fault (List Digit × List Char) :=
  match text with
  | '.' :: rest => readDigits purpose rest
  | _ => .ok ([], text)

/-- Whether the sign that a text starts with is a minus, and the rest of the text. -/
def readExponentSign : List Char → Bool × List Char
  | '-' :: rest => (true, rest)
  | '+' :: rest => (false, rest)
  | text => (false, text)

def readExponent (purpose : Purpose) (text : List Char) :
    Except Fault (Option Exponent × List Char) :=
  match text with
  | 'e' :: rest | 'E' :: rest =>
    let (negative, rest) := readExponentSign rest
    (readDigits purpose rest).map fun (digits, rest) ↦ (some ⟨negative, digits⟩, rest)
  | _ => .ok (none, text)

/-- The digits of a number behind its sign. -/
def readUnsigned (purpose : Purpose) (negative : Bool) (text : List Char) :
    Except Fault (Number × List Char) := do
  let (whole, rest) ← readWhole purpose text
  let (fraction, rest) ← readFraction purpose rest
  let (exponent?, rest) ← readExponent purpose rest
  return (⟨negative, whole, fraction, exponent?⟩, rest)

/-- The number that a text starts with, and the rest of the text. -/
def read (purpose : Purpose) (text : List Char) : Except Fault (Number × List Char) :=
  match text with
  | '-' :: rest => readUnsigned purpose true rest
  | _ => readUnsigned purpose false text

/-! ### Value -/

inductive Value
  | integer (value : Int)
  | float (value : Float)

/-- The greatest number that the digits are collected into, of 64 bits. -/
def maxSignificand : Nat := 0xFFFFFFFFFFFFFFFF

/-- The greatest magnitude of a negative integer of 64 bits. -/
def maxNegative : Nat := 0x8000000000000000

/-- The leading digits of a number as one number, and the power of ten that it is to be scaled
by. -/
structure Significand where
  value : Nat
  exponent : Int
  deriving DecidableEq, Repr

/-- One more digit before the point. From the first digit on that would make the significand too
great, digits are only counted. -/
def Significand.pushWhole (significand : Significand) (digit : Digit) : Significand :=
  let value := significand.value * 10 + digit
  if significand.exponent = 0 ∧ value ≤ maxSignificand then ⟨value, 0⟩
  else { significand with exponent := significand.exponent + 1 }

/-- The digits behind the point. From the first digit on that would make the significand too great,
digits are dropped. -/
def Significand.pushFraction (significand : Significand) : List Digit → Significand
  | [] => significand
  | digit :: digits =>
    let value := significand.value * 10 + digit
    if value ≤ maxSignificand then
      pushFraction ⟨value, significand.exponent - 1⟩ digits
    else significand

/-- The greatest exponent of a power of ten that is a floating-point number. -/
def maxTenExponent : Nat := 308

def powerOfTen (exponent : Nat) : Float := Float.ofScientific 1 false exponent

/-- A number divided by a power of ten, in steps for which the power is finite. -/
def shrink (number : Float) (exponent : Nat) : Float :=
  if exponent ≤ maxTenExponent then number / powerOfTen exponent
  else if number == 0 then number
  else shrink (number / powerOfTen maxTenExponent) (exponent - maxTenExponent)
termination_by exponent
decreasing_by
  have hpos : 0 < maxTenExponent := by decide
  omega

def Significand.toFloat (significand : Significand) : Float :=
  let number := (UInt64.ofNat significand.value).toFloat
  if significand.exponent < 0 then shrink number significand.exponent.natAbs
  else if significand.value = 0 then number
  else number * powerOfTen (min significand.exponent.toNat (maxTenExponent + 1))

/-- The significand of a number, with the exponent that is written out not yet counted. -/
def significand (number : Number) : Significand :=
  (number.whole.foldl Significand.pushWhole ⟨0, 0⟩).pushFraction number.fraction

/-- The value of a number. The significand is rounded to a floating-point number and then scaled by
the power of ten, which is rounded too, and may come out infinite. -/
def value (number : Number) : Value :=
  let significand := number.significand
  let float :=
    let magnitude : Float :=
      match number.exponent? with
      | none => significand.toFloat
      | some exponent =>
        { significand with exponent := significand.exponent + exponent.value }.toFloat
    Value.float (if number.negative then -magnitude else magnitude)
  if !number.fraction.isEmpty || number.exponent?.isSome || significand.exponent ≠ 0 then float
  else if !number.negative then .integer significand.value
  else if significand.value = 0 ∨ maxNegative < significand.value then float
  else .integer (-significand.value)

/-- Whether the value of a number is finite: an integer of 64 bits, or a significand that does not
overflow when it is scaled. As it is rounded before it is scaled, this is not quite the same as
whether the number itself is within the range of floating-point numbers. -/
def inRange (number : Number) : Bool :=
  match number.value with
  | .integer _ => true
  | .float value => value.isFinite

/-! ### Lengths -/

theorem readDigits_length {purpose : Purpose} {text rest : List Char} {digits : List Digit}
    (hread : readDigits purpose text = .ok (digits, rest)) : rest.length < text.length := by
  have hspan := spanDigits_length text
  unfold readDigits at hread
  split at hread
  · contradiction
  · rename_i first others tail hdigits
    simp only [Except.ok.injEq, Prod.mk.injEq] at hread
    rw [hdigits] at hspan
    simp only [List.length_cons, hread.2] at hspan
    omega

theorem readWhole_length {purpose : Purpose} {text rest : List Char} {digits : List Digit}
    (hread : readWhole purpose text = .ok (digits, rest)) : rest.length < text.length := by
  unfold readWhole at hread
  split at hread
  · contradiction
  · exact readDigits_length hread

theorem readFraction_length {purpose : Purpose} {text rest : List Char} {digits : List Digit}
    (hread : readFraction purpose text = .ok (digits, rest)) : rest.length ≤ text.length := by
  unfold readFraction at hread
  split at hread
  · have := readDigits_length hread
    simp only [List.length_cons]
    omega
  · grind

theorem readExponentSign_length (text : List Char) :
    (readExponentSign text).2.length ≤ text.length := by
  unfold readExponentSign
  split <;> simp

theorem readExponent_length {purpose : Purpose} {text rest : List Char}
    {exponent? : Option Exponent} (hread : readExponent purpose text = .ok (exponent?, rest)) :
    rest.length ≤ text.length := by
  have hdigits : ∀ tail, (readDigits purpose (readExponentSign tail).2).map
      (fun (digits, rest) ↦ (some (Exponent.mk (readExponentSign tail).1 digits), rest)) =
        .ok (exponent?, rest) → rest.length ≤ tail.length := by
    intro tail h
    have hsign := readExponentSign_length tail
    cases hread : readDigits purpose (readExponentSign tail).2 with
    | error fault => simp [hread, Except.map] at h
    | ok result =>
      have hlength := readDigits_length hread
      simp only [hread, Except.map, Except.ok.injEq, Prod.mk.injEq] at h
      rw [← h.2]
      omega
  unfold readExponent at hread
  split at hread
  · have := hdigits _ hread
    simp only [List.length_cons]
    omega
  · have := hdigits _ hread
    simp only [List.length_cons]
    omega
  · grind

theorem read_length {purpose : Purpose} {text rest : List Char} {number : Number}
    (hread : read purpose text = .ok (number, rest)) : rest.length < text.length := by
  have hunsigned : ∀ {negative : Bool} {tail : List Char},
      readUnsigned purpose negative tail = .ok (number, rest) → rest.length < tail.length := by
    intro negative tail h
    simp only [readUnsigned, bind, Except.bind] at h
    split at h
    · contradiction
    · rename_i whole hwhole
      split at h
      · contradiction
      · rename_i fraction hfraction
        split at h
        · contradiction
        · rename_i exponent hexponent
          simp only [pure, Except.pure, Except.ok.injEq, Prod.mk.injEq] at h
          have hwhole := readWhole_length hwhole
          have hfraction := readFraction_length hfraction
          have hexponent := readExponent_length hexponent
          rw [← h.2]
          omega
  unfold read at hread
  split at hread
  · exact Nat.lt_succ_of_lt (hunsigned hread)
  · exact hunsigned hread

end Number

end RecordTemplate.Json
