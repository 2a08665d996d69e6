import StaticSite.Number.Shortest

/-!
Contract: the written form of numbers.

Owns:
- the layout of a decimal, positional or with an exponent;
- the shortest text of a double-precision number and the names of its
  exceptional values;
- the text with exactly one decimal place.

Does not own: the digits of a number (see `StaticSite.Number.Shortest`).
-/

namespace StaticSite.Binary64

/-- Where positional writing ends, and how the exceptional values are named. -/
structure NumberStyle where
  firstPositional : Int
  lastPositional : Int
  infinityName : String
  notANumberName : String

/-- Numbers are written positionally from one ten-thousandth up to below ten to the
sixteenth power. -/
def plainStyle : NumberStyle :=
  { firstPositional := -4
    lastPositional := 15
    infinityName := "inf"
    notANumberName := "nan" }

def zeros (count : Nat) : String :=
  String.ofList (List.replicate count '0')

/-- A decimal whose first digit has the place value ten to the power `magnitude`,
written positionally with at least one digit on each side of the point. -/
def positional (digits : List Char) (magnitude : Int) : String :=
  if magnitude < 0 then
    "0." ++ zeros (-magnitude - 1).toNat ++ String.ofList digits
  else
    let wholeLength := magnitude.toNat + 1
    if digits.length ≤ wholeLength then
      String.ofList digits ++ zeros (wholeLength - digits.length) ++ ".0"
    else
      String.ofList (digits.take wholeLength) ++ "." ++
        String.ofList (digits.drop wholeLength)

/-- An exponent with its sign and at least two digits. -/
def exponentText (magnitude : Int) : String :=
  let digits := Nat.toDigits 10 magnitude.natAbs
  (if magnitude < 0 then "e-" else "e+") ++
    zeros (2 - digits.length) ++ String.ofList digits

/-- A decimal with one digit before the point, and an exponent. -/
def scientific (digits : List Char) (magnitude : Int) : String :=
  String.ofList (digits.take 1) ++
    (if digits.length ≤ 1 then "" else "." ++ String.ofList (digits.drop 1)) ++
    exponentText magnitude

def Decimal.text (style : NumberStyle) (decimal : Decimal) : String :=
  let digits := Nat.toDigits 10 decimal.digits
  let magnitude := decimal.exponent + (digits.length - 1 : Int)
  if style.firstPositional ≤ magnitude ∧ magnitude ≤ style.lastPositional then
    positional digits magnitude
  else
    scientific digits magnitude

def signText (negative : Bool) : String :=
  if negative then "-" else ""

/-- The shortest text that determines a number, in the given style. -/
def textIn (style : NumberStyle) : Binary64 → String
  | finite negative exponentField fraction =>
      signText negative ++
        (if exponentField.val = 0 ∧ fraction.val = 0 then
          "0.0"
        else
          (shortest exponentField fraction).text style)
  | infinite negative => signText negative ++ style.infinityName
  | notANumber => style.notANumberName

def text (number : Binary64) : String :=
  number.textIn plainStyle

/-- A number rounded to one decimal place, an exact tie going to the even digit. -/
def onePlaceText : Binary64 → String
  | finite negative exponentField fraction =>
      let scaled :=
        scaleDown (coefficient exponentField fraction) 1 (-binaryExponent exponentField)
      let tenths := nearestQuotient (10 * scaled.1) scaled.2
      signText negative ++ toString (tenths / 10) ++ "." ++ toString (tenths % 10)
  | other => other.text

end StaticSite.Binary64
