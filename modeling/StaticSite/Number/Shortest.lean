import StaticSite.Number.Binary64

/-!
Contract: the fewest decimal digits that determine a double-precision number.

Owns:
- the interval of reals that round to a given positive value;
- the search over decimal grids of one, two, and up to seventeen digits.

Does not own: where the decimal point goes (see `StaticSite.Number.Notation`).
-/

namespace StaticSite.Binary64

/-- A positive decimal: `digits` times ten to the power `exponent`. -/
structure Decimal where
  digits : Nat
  exponent : Int
  deriving DecidableEq

/-- The reals that round to a positive value, with the value itself: three
numerators over one denominator, and whether the ends belong to the interval. -/
structure RoundingInterval where
  lower : Nat
  value : Nat
  upper : Nat
  denominator : Nat
  closed : Bool

/-- The rounding interval of a positive finite value.  It reaches half a unit of the
last place to each side, but only a quarter below a power of two. -/
def roundingInterval (exponentField : Fin 2047) (fraction : Fin 4503599627370496) :
    RoundingInterval :=
  let whole := coefficient exponentField fraction
  let below := if fraction.val = 0 ∧ 1 < exponentField.val then 1 else 2
  let exponent := binaryExponent exponentField - 2
  let scale := Nat.pow 2 exponent.toNat
  { lower := (4 * whole - below) * scale
    value := 4 * whole * scale
    upper := (4 * whole + 2) * scale
    denominator := Nat.pow 2 (-exponent).toNat
    closed := whole % 2 == 0 }

/-- The interval seen in units of ten to the power `exponent`. -/
def RoundingInterval.inUnits (interval : RoundingInterval) (exponent : Int) :
    RoundingInterval :=
  let scale := Nat.pow 10 (-exponent).toNat
  { lower := interval.lower * scale
    value := interval.value * scale
    upper := interval.upper * scale
    denominator := interval.denominator * Nat.pow 10 exponent.toNat
    closed := interval.closed }

/-- Whether a whole number of units lies in the interval. -/
def RoundingInterval.holds (interval : RoundingInterval) (units : Nat) : Bool :=
  let point := units * interval.denominator
  if interval.closed then
    interval.lower ≤ point && point ≤ interval.upper
  else
    interval.lower < point && point < interval.upper

/-- The whole number of units in the interval nearest to its value, if any; of two
equally near ones the even one. -/
def RoundingInterval.nearest? (interval : RoundingInterval) : Option Nat :=
  let units := interval.value / interval.denominator
  match interval.holds units, interval.holds (units + 1) with
  | false, false => none
  | true, false => some units
  | false, true => some (units + 1)
  | true, true => some (nearestQuotient interval.value interval.denominator)

/-- The position of the first digit of a positive quotient: the largest power of ten
not above it. -/
def decimalMagnitude (numerator denominator : Nat) : Int :=
  if denominator ≤ numerator then
    (Nat.toDigits 10 (numerator / denominator)).length - 1
  else
    -((Nat.toDigits 10 ((denominator + numerator - 1) / numerator - 1)).length : Int)

/-- The first grid that meets the interval, from the grid of units ten to the power
`exponent` on to finer ones. -/
def searchGrids (interval : RoundingInterval) : Nat → Int → Decimal
  | 0, exponent =>
      let scaled := interval.inUnits exponent
      ⟨nearestQuotient scaled.value scaled.denominator, exponent⟩
  | finer + 1, exponent =>
      match (interval.inUnits exponent).nearest? with
      | some units => ⟨units, exponent⟩
      | none => searchGrids interval finer (exponent - 1)

/-- The same decimal without zeros at the end of its digits.  `fuel` bounds their
number. -/
def Decimal.withoutTrailingZeros : Nat → Decimal → Decimal
  | 0, decimal => decimal
  | fuel + 1, decimal =>
      if decimal.digits % 10 = 0 then
        withoutTrailingZeros fuel ⟨decimal.digits / 10, decimal.exponent + 1⟩
      else
        decimal

/-- The decimal of fewest digits that rounds to a positive finite value, and of
these the nearest to it.  Seventeen digits always suffice. -/
def shortest (exponentField : Fin 2047) (fraction : Fin 4503599627370496) : Decimal :=
  let interval := roundingInterval exponentField fraction
  (searchGrids interval 16
    (decimalMagnitude interval.value interval.denominator)).withoutTrailingZeros 17

end StaticSite.Binary64
