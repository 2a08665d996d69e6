import StaticSite.Json.Basic
import StaticSite.Text.Encoding

/-!
Contract: JSON texts of values.

Owns:
- quoting of texts, with or without escapes for characters beyond ASCII;
- the layout choices: separators, indentation and the order of members.

Does not own: reading (see `StaticSite.Json.Reader`) and safety of JSON inside
other languages (see `StaticSite.Page.Document`).
-/

namespace StaticSite.Json

/-- How a value is written. -/
structure Layout where
  itemSeparator : String
  nameSeparator : String
  sortMembers : Bool
  asciiOnly : Bool
  indent : Option Nat

/-- One line, with a blank after commas and colons, in the order of the value. -/
def plainLayout : Layout :=
  { itemSeparator := ", "
    nameSeparator := ": "
    sortMembers := false
    asciiOnly := false
    indent := none }

/-- One line, with members in the order of their names. -/
def sortedLayout : Layout :=
  { plainLayout with sortMembers := true }

/-- One line, in ASCII characters only. -/
def asciiLayout : Layout :=
  { plainLayout with asciiOnly := true }

/-- One line without any blanks. -/
def compactLayout : Layout :=
  { plainLayout with itemSeparator := ",", nameSeparator := ":" }

/-- One item a line, indented by two blanks for each level. -/
def indentedLayout : Layout :=
  { plainLayout with itemSeparator := ",", indent := some 2 }

/-! ## Quoting -/

def hexDigit (value : Nat) : Char :=
  if value < 10 then Char.ofNat (48 + value) else Char.ofNat (87 + value)

/-- The escape of one code unit by its four hexadecimal digits. -/
def unitEscape (unit : Nat) : List Char :=
  [ '\\', 'u', hexDigit (unit / 4096 % 16), hexDigit (unit / 256 % 16),
    hexDigit (unit / 16 % 16), hexDigit (unit % 16) ]

/-- The escape of a character by its code units, one or a surrogate pair. -/
def codeEscape (code : Nat) : List Char :=
  if code < 0x10000 then
    unitEscape code
  else
    unitEscape (0xd800 + (code - 0x10000) / 0x400) ++
      unitEscape (0xdc00 + (code - 0x10000) % 0x400)

/-- The escape of a character, or of the half that it stands for. -/
def characterEscape [Text.Halves] (character : Char) : List Char :=
  match Text.Halves.half? character with
  | some half => unitEscape half
  | none => codeEscape character.toNat

def quotedCharacter [Text.Halves] (asciiOnly : Bool) (character : Char) : List Char :=
  match character with
  | '"' => ['\\', '"']
  | '\\' => ['\\', '\\']
  | '\n' => ['\\', 'n']
  | '\r' => ['\\', 'r']
  | '\t' => ['\\', 't']
  | '\x0c' => ['\\', 'f']
  | '\x08' => ['\\', 'b']
  | other =>
      if other.toNat < 32 || (asciiOnly && 126 < other.toNat) then
        characterEscape other
      else
        [other]

def quote [Text.Halves] (asciiOnly : Bool) (value : String) : String :=
  "\"" ++ String.ofList (value.toList.flatMap (quotedCharacter asciiOnly)) ++ "\""

/-! ## Numbers -/

/-- Exceptional numbers are written by the names that the reader knows. -/
def numberStyle : Binary64.NumberStyle :=
  { Binary64.plainStyle with infinityName := "Infinity", notANumberName := "NaN" }

/-! ## Values -/

/-- A line break and the indentation of the given level, where items are indented. -/
def Layout.lineBreak (layout : Layout) (level : Nat) : String :=
  match layout.indent with
  | none => ""
  | some width => "\n" ++ String.ofList (List.replicate (width * level) ' ')

/-- Written items between brackets. -/
def Layout.enclose (layout : Layout) (level : Nat) (opening closing : String)
    (items : List String) : String :=
  if items.isEmpty then
    opening ++ closing
  else
    opening ++ layout.lineBreak (level + 1) ++
      (layout.itemSeparator ++ layout.lineBreak (level + 1)).intercalate items ++
      layout.lineBreak level ++ closing

/-- Written members in the order that the layout asks for. -/
def Layout.arrange (layout : Layout) (members : List (String × String)) :
    List (String × String) :=
  if layout.sortMembers then
    members.mergeSort fun left right => !(right.1 < left.1)
  else
    members

def Layout.member [Text.Halves] (layout : Layout) (member : String × String) : String :=
  quote layout.asciiOnly member.1 ++ layout.nameSeparator ++ member.2

mutual

/-- The text of a value that stands at the given level of nesting. -/
def writeAt [Text.Halves] (layout : Layout) (level : Nat) : Json → String
  | null => "null"
  | bool value => if value then "true" else "false"
  | int value => toString value
  | real value => value.textIn numberStyle
  | text value => quote layout.asciiOnly value
  | array items => layout.enclose level "[" "]" (writeItems layout (level + 1) items)
  | object members =>
      layout.enclose level "\x7b" "\x7d"
        ((layout.arrange (writeMembers layout (level + 1) members)).map layout.member)

def writeItems [Text.Halves] (layout : Layout) (level : Nat) : List Json → List String
  | [] => []
  | item :: others => writeAt layout level item :: writeItems layout level others

/-- The names and the texts of some members. -/
def writeMembers [Text.Halves] (layout : Layout) (level : Nat) :
    List (String × Json) → List (String × String)
  | [] => []
  | (name, value) :: others =>
      (name, writeAt layout level value) :: writeMembers layout level others

end

def write [Text.Halves] (layout : Layout) (value : Json) : String :=
  writeAt layout 0 value

end StaticSite.Json
