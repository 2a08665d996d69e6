/-!
Contract: double-precision numbers as exact mathematical data.

Owns:
- the finite values, the two infinities and the value that is not a number;
- the exact meaning of a finite value as an integer times a power of two;
- rounding of a rational or of a decimal to the nearest value, a tie going to
  the even neighbour;
- tests and conversions to integers.

Does not own: any text form (see `StaticSite.Number.Numeral` for reading and
`StaticSite.Number.Notation` for writing).
-/

namespace StaticSite

/-- A double-precision number.  A finite one has a sign, an exponent field and the
fifty-two bits of its fraction, so that equal data are equal numbers up to the
sign of zero. -/
inductive Binary64 where
  | finite (negative : Bool) (exponentField : Fin 2047) (fraction : Fin 4503599627370496)
  | infinite (negative : Bool)
  | notANumber
  deriving DecidableEq, Inhabited

namespace Binary64

/-- The number of values of a fraction, two to the fifty-second power. -/
def fractionCount : Nat := 4503599627370496

def coefficient (exponentField : Fin 2047) (fraction : Fin 4503599627370496) : Nat :=
  if exponentField.val = 0 then fraction.val else fraction.val + fractionCount

/-- The power of two that scales the coefficient of a finite value. -/
def binaryExponent (exponentField : Fin 2047) : Int :=
  (max exponentField.val 1 : Nat) - 1075

/-- The value whose coefficient is `coefficient`, at most two to the fifty-third
power, and whose exponent field would be `exponentField` for a normal value. -/
def ofCoefficient (negative : Bool) (coefficient exponentField : Nat) : Binary64 :=
  if isSmall : coefficient < 4503599627370496 then
    .finite negative 0 ⟨coefficient, isSmall⟩
  else if coefficient < 2 * fractionCount then
    if inRange : exponentField < 2047 then
      .finite negative ⟨exponentField, inRange⟩
        (Fin.ofNat 4503599627370496 (coefficient - fractionCount))
    else
      .infinite negative
  else if inRange : exponentField + 1 < 2047 then
    .finite negative ⟨exponentField + 1, inRange⟩ 0
  else
    .infinite negative

/-- The integer nearest to a quotient, the even one of two equally near. -/
def nearestQuotient (numerator denominator : Nat) : Nat :=
  let quotient := numerator / denominator
  let doubledRest := 2 * (numerator % denominator)
  if doubledRest < denominator then quotient
  else if denominator < doubledRest then quotient + 1
  else quotient + quotient % 2

/-- The quotient `numerator / denominator` divided by two to the power `exponent`,
as a numerator and a denominator. -/
def scaleDown (numerator denominator : Nat) (exponent : Int) : Nat × Nat :=
  (numerator * Nat.pow 2 (-exponent).toNat, denominator * Nat.pow 2 exponent.toNat)

/-- The exponent field at which a positive quotient has a coefficient of fifty-three
bits, or field one where the quotient is too small for that. -/
def fieldOfQuotient (numerator denominator : Nat) : Nat :=
  let estimate : Int := (Nat.log2 numerator : Int) - Nat.log2 denominator - 52
  let scaled := scaleDown numerator denominator estimate
  let exponent := if scaled.1 / scaled.2 < fractionCount then estimate - 1 else estimate
  (max (exponent + 1075) 1).toNat

/-- The number nearest to a quotient of natural numbers, with the given sign. -/
def ofQuotient (negative : Bool) (numerator denominator : Nat) : Binary64 :=
  if numerator = 0 then
    .finite negative 0 0
  else
    let exponentField := fieldOfQuotient numerator denominator
    let scaled := scaleDown numerator denominator (exponentField - 1075)
    ofCoefficient negative (nearestQuotient scaled.1 scaled.2) exponentField

/-- The number nearest to `digits` times ten to the power `exponent`.  Outside the
decimal magnitudes of the format the answer is an infinity or a zero at once. -/
def ofDecimal (negative : Bool) (digits : Nat) (exponent : Int) : Binary64 :=
  let magnitude : Int := (Nat.toDigits 10 digits).length + exponent
  if digits = 0 ∨ magnitude < -330 then
    .finite negative 0 0
  else if 310 < magnitude then
    .infinite negative
  else
    ofQuotient negative (digits * Nat.pow 10 exponent.toNat)
      (Nat.pow 10 (-exponent).toNat)

/-- The number nearest to an integer. -/
def ofInt (value : Int) : Binary64 :=
  ofQuotient (value < 0) value.natAbs 1

/-- Whether a value is neither an infinity nor the value that is not a number. -/
def isFinite : Binary64 → Bool
  | finite .. => true
  | _ => false

/-- Whether a value is one of the two zeros. -/
def isZero : Binary64 → Bool
  | finite _ exponentField fraction => exponentField.val == 0 && fraction.val == 0
  | _ => false

/-- The integer that a value is, if it is one. -/
def toInt? : Binary64 → Option Int
  | finite negative exponentField fraction =>
      let scaled :=
        scaleDown (coefficient exponentField fraction) 1 (-binaryExponent exponentField)
      if scaled.1 % scaled.2 = 0 then
        let size : Int := (scaled.1 / scaled.2 : Nat)
        some (if negative then -size else size)
      else
        none
  | _ => none

/-- Whether an integer is so large that its nearest value would be an infinity. -/
def overflows (value : Int) : Bool :=
  !(ofInt value).isFinite

end Binary64

end StaticSite
