import RecordTemplate.Decimal.Shortest

/-!
The text of a floating-point number in a message: the shortest decimal, positional if its first
digit has an exponent from -5 to 15 and scientific otherwise. A positional text always has a point
with a digit behind it.
-/

set_option autoImplicit false
set_option relaxedAutoImplicit false

namespace RecordTemplate.Decimal

/-- The least and the greatest exponent of the first digit in a positional text. -/
def positionalExponents : Int × Int := (-5, 15)

/-- Digits with a point behind the first `places`, and zeros where there are no digits. -/
def withPoint (digits : List Char) (places : Int) : List Char :=
  let before := digits.take places.toNat ++ List.replicate (places.toNat - digits.length) '0'
  let after := List.replicate (-places).toNat '0' ++ digits.drop places.toNat
  (if before.isEmpty then ['0'] else before) ++ '.' :: if after.isEmpty then ['0'] else after

def scientific (digits : List Char) (exponent : Int) : List Char :=
  let sign := if exponent < 0 then '-' else '+'
  digits.take 1 ++ (if digits.length ≤ 1 then [] else '.' :: digits.drop 1) ++
    ['e', sign] ++ Nat.toDigits 10 exponent.natAbs

/-- The text of a decimal other than zero. -/
def text (decimal : Decimal) : List Char :=
  let digits := Nat.toDigits 10 decimal.digits
  let exponent := decimal.exponent + digits.length - 1
  if positionalExponents.1 ≤ exponent ∧ exponent ≤ positionalExponents.2 then
    withPoint digits (exponent + 1)
  else scientific digits exponent

/-- The text of a finite number of double precision. -/
def textOfFloat (number : Float) : String :=
  let bits := number.toBits.toNat
  let magnitude := bits % Binary.signWeight
  let sign := if bits < Binary.signWeight then [] else ['-']
  String.ofList (sign ++ if magnitude = 0 then ['0', '.', '0']
    else text (Binary.ofBits magnitude).shortest)

end RecordTemplate.Decimal
