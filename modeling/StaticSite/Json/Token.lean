import StaticSite.Json.Basic
import StaticSite.Json.ReadError
import StaticSite.Number.Numeral
import StaticSite.Text.Encoding

/-!
Contract: the tokens of a JSON text.

Owns:
- the token type, with the ways in which a token can be malformed;
- quoted texts with their escapes, numbers, and named constants;
- cutting a text into tokens, each with the offset of its first character.

Does not own: how tokens combine to values (see `StaticSite.Json.Reader`).
-/

namespace StaticSite.Json

/-- A token.  A malformed one carries the error to report where a value was due, and
a `stray` character begins no token at all. -/
inductive Token where
  | openArray
  | closeArray
  | openObject
  | closeObject
  | comma
  | colon
  | quoted (value : String)
  | scalar (value : Json)
  | malformedText (error : ReadError)
  | malformedNumber (error : ReadError)
  | stray
  | finish

/-- A token with the offset at which it starts. -/
structure PlacedToken where
  token : Token
  offset : Nat

def isTokenBlank (character : Char) : Bool :=
  character == ' ' || character == '\t' || character == '\n' || character == '\r'

/-! ## Quoted texts -/

def hexValue? (character : Char) : Option Nat :=
  if character.isDigit then some (character.toNat - 48)
  else if 'a' ≤ character ∧ character ≤ 'f' then some (character.toNat - 87)
  else if 'A' ≤ character ∧ character ≤ 'F' then some (character.toNat - 55)
  else none

def hexQuad? (first second third fourth : Char) : Option Nat :=
  match hexValue? first, hexValue? second, hexValue? third, hexValue? fourth with
  | some high, some upper, some lower, some low =>
      some (4096 * high + 256 * upper + 16 * lower + low)
  | _, _, _, _ => none

/-- The character that an escape with one letter stands for. -/
def simpleEscape? : Char → Option Char
  | '"' => some '"'
  | '\\' => some '\\'
  | '/' => some '/'
  | 'b' => some '\x08'
  | 'f' => some '\x0c'
  | 'n' => some '\n'
  | 'r' => some '\r'
  | 't' => some '\t'
  | _ => none

/-- The second half of a surrogate pair, written as an escape at the head of a
text that goes on after it.  `offset` is where that text starts. -/
def followingHalf? (unit offset : Nat) : List Char → Except ReadError (Option Nat)
  | '\\' :: 'u' :: first :: second :: third :: fourth :: _ :: _ =>
      if Text.isHighSurrogate unit then
        match hexQuad? first second third fourth with
        | none => .error (.fault .badUnicodeEscape (offset + 1))
        | some low => .ok (if Text.isLowSurrogate low then some low else none)
      else
        .ok none
  | _ => .ok none

/-- Reads a quoted text after its opening quote, which is at offset `opening`.  The
result holds the text and the offset after the closing quote.  `decoded` holds, in
reverse, what has been read before `offset`. -/
def readQuoted [Text.Halves] (opening offset : Nat) (decoded : List Char) :
    List Char → Except ReadError (String × Nat)
  | [] => .error (.fault .unterminatedString opening)
  | '"' :: _ => .ok (String.ofList decoded.reverse, offset + 1)
  | ['\\'] => .error (.fault .unterminatedString opening)
  | '\\' :: 'u' :: first :: second :: third :: fourth :: next :: rest =>
      match hexQuad? first second third fourth with
      | none => .error (.fault .badUnicodeEscape (offset + 1))
      | some unit =>
          match followingHalf? unit (offset + 6) (next :: rest) with
          | .error error => .error error
          | .ok none =>
              readQuoted opening (offset + 6) (Text.characterOfUnit unit :: decoded)
                (next :: rest)
          | .ok (some low) =>
              readQuoted opening (offset + 12) (Text.characterOfPair unit low :: decoded)
                (rest.drop 5)
  | '\\' :: 'u' :: _ => .error (.fault .badUnicodeEscape (offset + 1))
  | '\\' :: letter :: rest =>
      match simpleEscape? letter with
      | some character => readQuoted opening (offset + 2) (character :: decoded) rest
      | none => .error (.fault .badEscape offset)
  | character :: rest =>
      if character.toNat < 32 then
        .error (.fault .controlCharacter offset)
      else
        readQuoted opening (offset + 1) (character :: decoded) rest
  termination_by source => source.length
  decreasing_by
    all_goals
      simp only [List.length_cons, List.length_drop]
      omega

/-! ## Numbers -/

/-- The digits before the point of a number: a lone zero, or digits of which the
first is not zero. -/
def wholePart : List Char → List Char
  | '0' :: _ => ['0']
  | source => source.takeWhile Char.isDigit

/-- The point and the digits after it, if there is at least one such digit. -/
def fractionPart : List Char → List Char
  | '.' :: rest =>
      if (rest.takeWhile Char.isDigit).isEmpty then [] else
        '.' :: rest.takeWhile Char.isDigit
  | _ => []

/-- The exponent mark, its sign and its digits, if there is at least one digit. -/
def exponentPart : List Char → List Char
  | mark :: rest =>
      if mark == 'e' || mark == 'E' then
        let sign := rest.takeWhile (fun character => character == '+' || character == '-')
        let digits := (rest.drop sign.length).takeWhile Char.isDigit
        if 1 < sign.length || digits.isEmpty then [] else mark :: (sign ++ digits)
      else
        []
  | [] => []

/-- The value of the digits of an exponent part, with its sign. -/
def exponentValue : List Char → Int
  | _ :: '-' :: digits => -(Number.digitsValue digits : Int)
  | _ :: '+' :: digits => Number.digitsValue digits
  | _ :: digits => Number.digitsValue digits
  | [] => 0

/-- Reads a number after its sign: the token and the number of characters read. -/
def readUnsigned? (negative : Bool) (source : List Char) : Option (Token × Nat) :=
  let whole := wholePart source
  if whole.isEmpty then
    none
  else
    let fraction := fractionPart (source.drop whole.length)
    let exponent := exponentPart (source.drop (whole.length + fraction.length))
    let token :=
      if fraction.isEmpty && exponent.isEmpty then
        if integerDigitLimit < whole.length then
          Token.malformedNumber (.integerTooLong whole.length)
        else
          let size : Int := Number.digitsValue whole
          .scalar (.int (if negative then -size else size))
      else
        .scalar (.real (Binary64.ofDecimal negative
          (Number.digitsValue (whole ++ fraction.drop 1))
          (exponentValue exponent - (fraction.length - 1 : Nat))))
    some (token, whole.length + fraction.length + exponent.length)

/-- Reads a number: the token and the number of characters read. -/
def readNumber? : List Char → Option (Token × Nat)
  | '-' :: rest =>
      (readUnsigned? true rest).map fun result => (result.1, result.2 + 1)
  | source => readUnsigned? false source

/-! ## Tokens -/

def namedConstants : List (List Char × Json) :=
  [ (['n', 'u', 'l', 'l'], .null)
  , (['t', 'r', 'u', 'e'], .bool true)
  , (['f', 'a', 'l', 's', 'e'], .bool false)
  , (['N', 'a', 'N'], .real .notANumber)
  , (['I', 'n', 'f', 'i', 'n', 'i', 't', 'y'], .real (.infinite false))
  , (['-', 'I', 'n', 'f', 'i', 'n', 'i', 't', 'y'], .real (.infinite true)) ]

def mark? : Char → Option Token
  | '[' => some .openArray
  | ']' => some .closeArray
  | '{' => some .openObject
  | '}' => some .closeObject
  | ',' => some .comma
  | ':' => some .colon
  | _ => none

/-- The token at the head of a text that starts with no blank, and the number of
characters it takes. -/
def firstToken [Text.Halves] (offset : Nat) (source : List Char) : Token × Nat :=
  match source with
  | [] => (.finish, 0)
  | '"' :: rest =>
      match readQuoted offset (offset + 1) [] rest with
      | .ok (value, stop) => (.quoted value, stop - offset)
      | .error error => (.malformedText error, 0)
  | character :: _ =>
      match mark? character with
      | some token => (token, 1)
      | none =>
          match namedConstants.find? fun constant => constant.1.isPrefixOf source with
          | some constant => (.scalar constant.2, constant.1.length)
          | none => (readNumber? source).getD (.stray, 0)

/-- The tokens of a text, up to the end or to the first token that no value can
contain. -/
def tokensFrom [Text.Halves] (offset : Nat) (source : List Char) : List PlacedToken :=
  match source with
  | [] => [⟨.finish, offset⟩]
  | character :: rest =>
      if isTokenBlank character then
        tokensFrom (offset + 1) rest
      else
        match firstToken offset (character :: rest) with
        | (token, 0) => [⟨token, offset⟩]
        | (token, length + 1) =>
            ⟨token, offset⟩ :: tokensFrom (offset + length + 1) (rest.drop length)
  termination_by source.length
  decreasing_by
    · simp
    · simp only [List.length_drop, List.length_cons]
      omega

def tokens [Text.Halves] (source : List Char) : List PlacedToken :=
  tokensFrom 0 source

end StaticSite.Json
