/-!
Contract: which characters count as blank, and removal of characters from the
ends of a text.

Owns:
- the Unicode set of blank characters;
- trimming of one or both ends of a text by any character test.

Does not own: the lines of a text (see `StaticSite.Text.Split`).
-/

namespace StaticSite.Text

/-- The blank characters of Unicode: tabs and line breaks, the four information
separators, the next-line control, and every space separator. -/
def isBlank (character : Char) : Bool :=
  let code := character.toNat
  (9 ≤ code && code ≤ 13)
    || (28 ≤ code && code ≤ 32)
    || code == 0x85
    || code == 0xa0
    || code == 0x1680
    || (0x2000 ≤ code && code ≤ 0x200a)
    || code == 0x2028
    || code == 0x2029
    || code == 0x202f
    || code == 0x205f
    || code == 0x3000

def dropTailWhile (discard : Char → Bool) (text : List Char) : List Char :=
  (text.reverse.dropWhile discard).reverse

/-- Drops the longest head and then the longest tail whose characters all
satisfy `discard`. -/
def dropEndsWhile (discard : Char → Bool) (text : List Char) : List Char :=
  dropTailWhile discard (text.dropWhile discard)

/-- A text without the blanks at its two ends. -/
def strip (text : String) : String :=
  String.ofList (dropEndsWhile isBlank text.toList)

/-- A text without the given character at its two ends. -/
def stripCharacter (unwanted : Char) (text : String) : String :=
  String.ofList (dropEndsWhile (· == unwanted) text.toList)

/-- A text without the given character at its end. -/
def stripTrailing (unwanted : Char) (text : String) : String :=
  String.ofList (dropTailWhile (· == unwanted) text.toList)

theorem toList_strip (text : String) :
    (strip text).toList = dropEndsWhile isBlank text.toList :=
  String.toList_ofList

theorem toList_stripTrailing (unwanted : Char) (text : String) :
    (stripTrailing unwanted text).toList = dropTailWhile (· == unwanted) text.toList :=
  String.toList_ofList

/-- Trimming the tail removes nothing but a tail. -/
theorem exists_append_dropTailWhile (discard : Char → Bool) (text : List Char) :
    ∃ tail, text = dropTailWhile discard text ++ tail ∧ tail.all discard = true := by
  refine ⟨(text.reverse.takeWhile discard).reverse, ?_, ?_⟩
  · have split :=
      List.takeWhile_append_dropWhile (p := discard) (l := text.reverse)
    have reversed := congrArg List.reverse split
    rw [List.reverse_append, List.reverse_reverse] at reversed
    exact reversed.symm
  · simp only [List.all_reverse]
    exact List.all_takeWhile

end StaticSite.Text
