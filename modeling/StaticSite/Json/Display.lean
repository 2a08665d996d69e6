import StaticSite.Json.Basic
import StaticSite.Json.Writer
import StaticSite.Text.Printable

/-!
Contract: the readable text of a value where a text is expected.

Owns:
- texts as they are, other scalars by name or number;
- containers as listings in which texts are quoted.

Does not own: JSON text (see `StaticSite.Json.Writer`).
-/

namespace StaticSite.Json

/-- The last hexadecimal digits of a code, `count` of them. -/
def hexDigits (count code : Nat) : List Char :=
  (List.range count).reverse.map fun place => hexDigit (code / Nat.pow 16 place % 16)

/-- A character inside a listing between the given quotes.  Characters without a
visible form are written by their code. -/
def listedCharacter (quoteMark character : Char) : List Char :=
  if character == quoteMark || character == '\\' then ['\\', character]
  else if character == '\n' then ['\\', 'n']
  else if character == '\r' then ['\\', 'r']
  else if character == '\t' then ['\\', 't']
  else if Text.isPrintable character then [character]
  else if character.toNat < 0x100 then '\\' :: 'x' :: hexDigits 2 character.toNat
  else if character.toNat < 0x10000 then '\\' :: 'u' :: hexDigits 4 character.toNat
  else '\\' :: 'U' :: hexDigits 8 character.toNat

/-- A text inside a listing: in single quotes, unless it holds single quotes and no
double quotes. -/
def listedText (value : String) : String :=
  let characters := value.toList
  let quoteMark := if characters.contains '\'' && !characters.contains '"' then '"' else '\''
  String.ofList (quoteMark :: (characters.flatMap (listedCharacter quoteMark) ++ [quoteMark]))

mutual

def listed : Json → String
  | null => "None"
  | bool value => if value then "True" else "False"
  | int value => toString value
  | real value => value.text
  | text value => listedText value
  | array items => "[" ++ ", ".intercalate (listedItems items) ++ "]"
  | object members => "\x7b" ++ ", ".intercalate (listedMembers members) ++ "\x7d"

def listedItems : List Json → List String
  | [] => []
  | item :: others => listed item :: listedItems others

def listedMembers : List (String × Json) → List String
  | [] => []
  | (name, value) :: others =>
      (listedText name ++ ": " ++ listed value) :: listedMembers others

end

/-- The readable text of a value: a text as it is, any other value as in a
listing. -/
def display : Json → String
  | text value => value
  | other => listed other

end StaticSite.Json
