import StaticSite.Number.Byte

/-!
Contract: texts as bytes.

Owns:
- the two halves of a surrogate pair, the character that they encode, and the characters of a
  sequence of units of sixteen bits;
- what stands in texts for halves that are not part of a pair;
- the bytes of a text in UTF-8;
- the encodings in which JSON text may come, and which of them its first bytes show;
- reading bytes in the encodings of wide units.

Does not own: reading bytes in UTF-8, which texts are kept in.
-/

namespace StaticSite.Text

/-! ## Units of sixteen bits -/

/-- Whether a code unit is the first half of a surrogate pair. -/
def isHighSurrogate (unit : Nat) : Bool :=
  0xd800 ≤ unit && unit < 0xdc00

/-- Whether a code unit is the second half of a surrogate pair. -/
def isLowSurrogate (unit : Nat) : Bool :=
  0xdc00 ≤ unit && unit < 0xe000

/-- Whether a code unit is a half of a surrogate pair. -/
def isHalf (unit : Nat) : Bool :=
  isHighSurrogate unit || isLowSurrogate unit

theorem bounds_of_isHalf {unit : Nat} (half : isHalf unit = true) :
    0xd800 ≤ unit ∧ unit < 0xe000 := by
  simp only [isHalf, isHighSurrogate, isLowSurrogate, Bool.or_eq_true, Bool.and_eq_true,
    decide_eq_true_eq] at half
  omega

/-- What stands in texts for the halves of surrogate pairs that are not part of a pair.
A decoded text may have such a half where texts of characters have none.  Where a
character stands for a half, it does not stand for itself. -/
class Halves where
  /-- The character that stands for a half. -/
  character : Nat → Char
  /-- The half that a character stands for, as far as it can be told. -/
  half? : Char → Option Nat
  isHalf_of_half? : ∀ standIn half, half? standIn = some half → isHalf half = true
  character_of_half? : ∀ standIn half, half? standIn = some half → character half = standIn
  beyondAscii : ∀ standIn half, half? standIn = some half → 126 < standIn.toNat

/-- Characters stand for the halves as well as for themselves, so that no half can be
told from them. -/
@[reducible]
def Halves.replacedBy (character : Nat → Char) : Halves where
  character := character
  half? _ := none
  isHalf_of_half? := nofun
  character_of_half? := nofun
  beyondAscii := nofun

/-- The replacement character stands for every half. -/
instance Halves.replaced : Halves :=
  .replacedBy fun _ => Char.ofNat 0xfffd

/-- Every half is kept apart, by a character for private use that stands for it. -/
@[reducible]
def Halves.kept : Halves where
  character half := Char.ofNat (0xf0000 + half)
  half? standIn :=
    if isHalf (standIn.toNat - 0xf0000) then some (standIn.toNat - 0xf0000) else none
  isHalf_of_half? standIn half isStandIn := by
    obtain ⟨isHalf, same⟩ := Option.ite_none_right_eq_some.mp isStandIn
    rw [← Option.some.inj same]
    exact isHalf
  character_of_half? standIn half isStandIn := by
    obtain ⟨isHalf, same⟩ := Option.ite_none_right_eq_some.mp isStandIn
    have bounds := bounds_of_isHalf isHalf
    rw [← Option.some.inj same, Nat.add_sub_of_le (by omega), Char.ofNat_toNat]
  beyondAscii standIn half isStandIn := by
    obtain ⟨isHalf, -⟩ := Option.ite_none_right_eq_some.mp isStandIn
    have bounds := bounds_of_isHalf isHalf
    omega

/-- The character of a code unit that is not part of a surrogate pair. -/
def characterOfUnit [Halves] (unit : Nat) : Char :=
  if isHalf unit then Halves.character unit else Char.ofNat unit

/-- The character that two halves of a surrogate pair encode. -/
def characterOfPair (high low : Nat) : Char :=
  Char.ofNat (0x10000 + 0x400 * (high - 0xd800) + (low - 0xdc00))

def charactersOfUnits [Halves] : List Nat → List Char
  | [] => []
  | [unit] => [characterOfUnit unit]
  | first :: second :: others =>
      if isHighSurrogate first && isLowSurrogate second then
        characterOfPair first second :: charactersOfUnits others
      else
        characterOfUnit first :: charactersOfUnits (second :: others)

/-! ## Bytes -/

def utf8Bytes (text : String) : List UInt8 :=
  text.toList.flatMap String.utf8EncodeChar

/-- An encoding of JSON text: UTF-8, UTF-16 or UTF-32. -/
inductive Encoding where
  | utf8
  | utf16 (order : Number.ByteOrder)
  | utf32 (order : Number.ByteOrder)
  deriving DecidableEq

/-- The encoding of a JSON text, told by which of its bytes are zero.  As the text
begins with an ASCII character, zeros among the first two bytes show wide units, and
the next two tell their width.  Three bytes and a single one are always UTF-8. -/
def Encoding.ofZeros : List Bool → Encoding
  | true :: true :: _ :: _ :: _ => .utf32 .mostSignificantFirst
  | true :: false :: _ :: _ :: _ => .utf16 .mostSignificantFirst
  | false :: true :: true :: true :: _ => .utf32 .leastSignificantFirst
  | false :: true :: _ :: _ :: _ => .utf16 .leastSignificantFirst
  | [true, _] => .utf16 .mostSignificantFirst
  | [false, true] => .utf16 .leastSignificantFirst
  | _ => .utf8

def Encoding.ofBytes (bytes : List UInt8) : Encoding :=
  .ofZeros (bytes.map (· == 0))

/-- The numbers that bytes form in groups of `size + 1`, unless a group is cut off. -/
def unitsOf? (order : Number.ByteOrder) (size : Nat) (bytes : List UInt8) :
    Option (List Nat) :=
  if bytes.length % (size + 1) = 0 then
    some ((Number.piecesOf size bytes.length bytes).map (Number.valueOf order))
  else
    none

def ofUtf16? [Halves] (order : Number.ByteOrder) (bytes : List UInt8) : Option String :=
  (unitsOf? order 1 bytes).map fun units => String.ofList (charactersOfUnits units)

/-- The largest number of a character. -/
def lastCharacter : Nat := 0x10ffff

def ofUtf32? [Halves] (order : Number.ByteOrder) (bytes : List UInt8) : Option String :=
  (unitsOf? order 3 bytes).bind fun units =>
    if units.all (· ≤ lastCharacter) then some (String.ofList (units.map characterOfUnit))
    else none

end StaticSite.Text
