/-!
Contract: what can be wrong with a JSON text.

Owns:
- the causes, with the place in the text where each arises;
- their wording.

Does not own: finding them (see `StaticSite.Json.Reader`).
-/

namespace StaticSite.Json

/-- The two kinds of container. -/
inductive Container where
  | array
  | object
  deriving DecidableEq

/-- A fault at one place of a text. -/
inductive Fault where
  | expectedValue
  | expectedName
  | expectedColon
  | expectedComma
  | extraData
  | unterminatedString
  | controlCharacter
  | badEscape
  | badUnicodeEscape
  | byteOrderMark
  deriving DecidableEq

/-- Why a text is not read as a JSON value.  Offsets count characters from zero. -/
inductive ReadError where
  | fault (cause : Fault) (offset : Nat)
  | integerTooLong (digits : Nat)
  | nestedTooDeep (container : Container)
  deriving DecidableEq

def integerDigitLimit : Nat := 4300

/-- The largest number of containers that may be open at once. -/
def openContainerLimit : Nat := 990

/-- The wording of a fault, without its place. -/
def Fault.message : Fault → String
  | expectedValue => "Expecting value"
  | expectedName => "Expecting property name enclosed in double quotes"
  | expectedColon => "Expecting ':' delimiter"
  | expectedComma => "Expecting ',' delimiter"
  | extraData => "Extra data"
  | unterminatedString => "Unterminated string starting at"
  | controlCharacter => "Invalid control character at"
  | badEscape => "Invalid \\escape"
  | badUnicodeEscape => "Invalid \\uXXXX escape"
  | byteOrderMark => "Unexpected UTF-8 BOM (decode using utf-8-sig)"

/-- The line of an offset and its column in that line, both counted from one. -/
def lineAndColumn (source : List Char) (offset : Nat) : Nat × Nat :=
  let before := source.take offset
  (before.count '\n' + 1, (before.reverse.takeWhile (· != '\n')).length + 1)

/-- The wording of an error in the given text. -/
def ReadError.message (source : String) : ReadError → String
  | fault cause offset =>
      let place := lineAndColumn source.toList offset
      cause.message ++ ": line " ++ toString place.1 ++ " column " ++ toString place.2 ++
        " (char " ++ toString offset ++ ")"
  | integerTooLong digits =>
      "Exceeds the limit (" ++ toString integerDigitLimit ++
        " digits) for integer string conversion: value has " ++ toString digits ++
        " digits; use sys.set_int_max_str_digits() to increase the limit"
  | nestedTooDeep .array =>
      "maximum recursion depth exceeded while decoding a JSON array from a unicode string"
  | nestedTooDeep .object =>
      "maximum recursion depth exceeded while decoding a JSON object from a unicode string"

end StaticSite.Json
