/-!
The shortest decimal of a binary floating-point number: of the decimals that round to the number,
one with the fewest digits, and of those the nearest. A finite number other than zero is a
significand `m` times a power `2 ^ q`; the decimals that round to it form an interval around it,
whose ends belong to it exactly if `m` is even. The decimals that are multiples of one power of ten
form a grid, and the shortest decimal lies on the coarsest grid that has a point in the interval.
-/

set_option autoImplicit false
set_option relaxedAutoImplicit false

namespace RecordTemplate

/-- The number `digits * 10 ^ exponent`. -/
structure Decimal where
  digits : Nat
  exponent : Int
  deriving DecidableEq, Repr

/-- A positive binary number `significand * 2 ^ exponent`. At the lower end of a binade the number
below is only half as far away as the number above. -/
structure Binary where
  significand : Nat
  exponent : Int
  atBinadeStart : Bool
  deriving DecidableEq, Repr

namespace Binary

/-- Four times the significand, so that the ends of the rounding interval are whole. -/
def middle (number : Binary) : Nat := 4 * number.significand

def lower (number : Binary) : Nat :=
  number.middle - (if number.atBinadeStart then 1 else 2)

def upper (number : Binary) : Nat := number.middle + 2

/-- The factor that turns quarters of the significand into multiples of a common unit, at the grid
of an exponent of ten. -/
def quarterUnits (number : Binary) (exponent : Int) : Nat :=
  Nat.pow 2 (number.exponent - 2).toNat * Nat.pow 10 (-exponent).toNat

/-- The factor that turns points of the grid into multiples of the same unit. -/
def gridUnits (number : Binary) (exponent : Int) : Nat :=
  Nat.pow 10 exponent.toNat * Nat.pow 2 (2 - number.exponent).toNat

/-- Whether a point of the grid of an exponent of ten rounds to the number. -/
def roundsBack (number : Binary) (exponent : Int) (point : Nat) : Bool :=
  let place := point * number.gridUnits exponent
  let first := number.lower * number.quarterUnits exponent
  let last := number.upper * number.quarterUnits exponent
  if number.significand % 2 = 0 then first ≤ place && place ≤ last
  else first < place && place < last

/-- The point of a grid that rounds to the number, the nearer one if both neighbours of the number
do, and the even one if they are equally near. -/
def onGrid? (number : Binary) (exponent : Int) : Option Decimal :=
  let place := number.middle * number.quarterUnits exponent
  let unit := number.gridUnits exponent
  let below := place / unit
  let above := below + 1
  match number.roundsBack exponent below, number.roundsBack exponent above with
  | false, false => none
  | true, false => some ⟨below, exponent⟩
  | false, true => some ⟨above, exponent⟩
  | true, true =>
    let toBelow := place - below * unit
    let toAbove := above * unit - place
    if toBelow < toAbove ∨ toBelow = toAbove ∧ below % 2 = 0 then some ⟨below, exponent⟩
    else some ⟨above, exponent⟩

/-- The decimal on the coarsest of a number of grids, each ten times finer than the one before. -/
def coarsest? (number : Binary) (exponent : Int) : Nat → Option Decimal
  | 0 => none
  | grids + 1 => number.onGrid? exponent <|> number.coarsest? (exponent - 1) grids

/-- The shortest decimal of a number of double precision. The grids go from the first that is
coarser than every such number to one that is finer than the distance between any two. -/
def shortest (number : Binary) : Decimal :=
  (number.coarsest? 309 800).getD ⟨0, 0⟩

end Binary

/-! ### Double precision -/

/-- The weight of the lowest bit of the exponent, above 52 bits of fraction. -/
def Binary.exponentWeight : Nat := 0x10000000000000

/-- The weight of the sign, above 11 bits of exponent. -/
def Binary.signWeight : Nat := 0x8000000000000000

/-- The binary number that the bits below the sign stand for, unless they are those of an infinity
or of no number. -/
def Binary.ofBits (bits : Nat) : Binary :=
  let fraction : Nat := bits % exponentWeight
  let biased : Nat := bits / exponentWeight
  if biased = 0 then ⟨fraction, -1074, false⟩
  else ⟨exponentWeight + fraction, (biased : Int) - 1075, fraction = 0 && 1 < biased⟩

end RecordTemplate
