import StaticSite.Number.Binary64
import StaticSite.Text.Blank
import StaticSite.Text.DecimalDigit

/-!
Contract: reading numbers that people typed.

Owns:
- the grammar of integers and of decimal fractions, in the digits of any script,
  with low lines between digits and with blanks around the number.

Does not own: the stricter grammar of numbers in JSON (see
`StaticSite.Json.Token`).
-/

namespace StaticSite.Number

open StaticSite.Text

/-- A character of a numeral with a digit of any script replaced by the Latin digit
of the same value. -/
def latinDigit (character : Char) : Char :=
  match digitValue? character with
  | some value => Char.ofNat (48 + value)
  | none => character

/-- Removes the low lines of a numeral.  Each has to stand between two digits;
`afterDigit` tells whether the previous character is one. -/
def withoutLowLines (afterDigit : Bool) : List Char → Option (List Char)
  | [] => some []
  | '_' :: rest =>
      match rest with
      | next :: _ =>
          if afterDigit && next.isDigit then withoutLowLines false rest else none
      | [] => none
  | character :: rest =>
      (withoutLowLines character.isDigit rest).map (character :: ·)

def digitsValue (digits : List Char) : Nat :=
  digits.foldl (fun value digit => 10 * value + (digit.toNat - 48)) 0

/-- Splits a sign off a numeral: whether it is negative, and the rest. -/
def splitSign : List Char → Bool × List Char
  | '-' :: rest => (true, rest)
  | '+' :: rest => (false, rest)
  | text => (false, text)

/-- The value of a nonempty run of digits that makes up a whole text. -/
def wholeDigits? (text : List Char) : Option Nat :=
  if text.isEmpty || !text.all Char.isDigit then none else some (digitsValue text)

/-- The exponent part of a decimal fraction, which may be missing. -/
def exponentPart? : List Char → Option Int
  | [] => some 0
  | mark :: rest =>
      if mark == 'e' || mark == 'E' then
        let (negative, digits) := splitSign rest
        (wholeDigits? digits).map fun size =>
          if negative then -(size : Int) else size
      else
        none

/-- A decimal fraction without its sign: digits, a point and digits, one side of
which may be missing, and an exponent part. -/
def unsignedFraction? (negative : Bool) (text : List Char) : Option Binary64 :=
  let whole := text.takeWhile Char.isDigit
  let afterWhole := text.dropWhile Char.isDigit
  let fraction :=
    match afterWhole with
    | '.' :: rest => rest.takeWhile Char.isDigit
    | _ => []
  let afterFraction :=
    match afterWhole with
    | '.' :: rest => rest.dropWhile Char.isDigit
    | _ => afterWhole
  if whole.isEmpty && fraction.isEmpty then
    none
  else
    (exponentPart? afterFraction).map fun exponent =>
      Binary64.ofDecimal negative (digitsValue (whole ++ fraction))
        (exponent - fraction.length)

/-- The finite number that a text of the form of a decimal fraction denotes, or an
infinity where it is too large.  The names of exceptional values are not accepted. -/
def fraction? (text : String) : Option Binary64 :=
  let latin := (dropEndsWhile isBlank text.toList).map latinDigit
  (withoutLowLines false latin).bind fun plain =>
    let (negative, unsigned) := splitSign plain
    unsignedFraction? negative unsigned

/-- The blanks that may surround an integer: every blank except the four
information separators. -/
def isIntegerPadding (character : Char) : Bool :=
  isBlank character && !(28 ≤ character.toNat && character.toNat ≤ 31)

def integer? (digitLimit : Nat) (text : String) : Option Int :=
  let latin := (dropEndsWhile isIntegerPadding text.toList).map latinDigit
  let (negative, unsigned) := splitSign latin
  (withoutLowLines false unsigned).bind fun digits =>
    if digitLimit < digits.length then
      none
    else
      (wholeDigits? digits).map fun size =>
        if negative then -(size : Int) else size

end StaticSite.Number
