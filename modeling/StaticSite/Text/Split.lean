/-!
Contract: cutting a text into its pieces and into its lines.

Owns:
- the pieces between occurrences of one character, empty pieces included;
- the characters that end a line, splitting a text into its lines and joining lines with line feeds.

Does not own: trimming (see `StaticSite.Text.Blank`).
-/

namespace StaticSite.Text

/-! ## Pieces -/

/-- The pieces of a text between occurrences of `separator`.  There is always one
piece more than there are separators. -/
def pieces (separator : Char) : List Char → List (List Char)
  | [] => [[]]
  | character :: rest =>
      if character == separator then
        [] :: pieces separator rest
      else
        match pieces separator rest with
        | [] => [[character]]
        | first :: others => (character :: first) :: others

/-- The pieces of a text between occurrences of `separator`, as texts. -/
def splitAt (separator : Char) (text : String) : List String :=
  (pieces separator text.toList).map String.ofList

theorem pieces_ne_nil (separator : Char) (text : List Char) :
    pieces separator text ≠ [] := by
  cases text with
  | nil => simp [pieces]
  | cons character rest =>
      simp only [pieces]
      split
      · simp
      · split <;> simp

theorem separator_not_mem_of_mem_pieces (separator : Char) (text : List Char) :
    ∀ piece ∈ pieces separator text, separator ∉ piece := by
  induction text with
  | nil => simp [pieces]
  | cons character rest inductionHypothesis =>
      intro piece member
      simp only [pieces] at member
      split at member
      · rcases List.mem_cons.1 member with isHead | inTail
        · simp [isHead]
        · exact inductionHypothesis piece inTail
      · rename_i differs
        split at member
        · rename_i noPieces
          exact absurd noPieces (pieces_ne_nil separator rest)
        · rename_i first others restPieces
          rcases List.mem_cons.1 member with isHead | inTail
          · subst isHead
            intro inside
            rcases List.mem_cons.1 inside with isCharacter | inFirst
            · exact differs (by simp [isCharacter])
            · exact inductionHypothesis first (by simp [restPieces]) inFirst
          · exact inductionHypothesis piece (by simp [restPieces, inTail])

/-! ## Lines -/

/-- The characters that end a line: line feed, vertical tab, form feed, carriage
return, the file, group and record separators, next line, and the line and
paragraph separators. -/
def isLineBreak (character : Char) : Bool :=
  let code := character.toNat
  (10 ≤ code && code ≤ 13)
    || (28 ≤ code && code ≤ 30)
    || code == 0x85
    || code == 0x2028
    || code == 0x2029

/-- Splits off lines, holding the current line in reverse in `current`.  A
carriage return together with a following line feed ends one line, and a break at
the very end of the text opens no further line. -/
def linesFrom (current : List Char) : List Char → List (List Char)
  | [] => if current.isEmpty then [] else [current.reverse]
  | '\r' :: '\n' :: rest => current.reverse :: linesFrom [] rest
  | character :: rest =>
      if isLineBreak character then
        current.reverse :: linesFrom [] rest
      else
        linesFrom (character :: current) rest

/-- The lines of a text, without their line breaks. -/
def lines (text : String) : List String :=
  (linesFrom [] text.toList).map String.ofList

/-- The given lines with a line feed between each two. -/
def joinLines (parts : List String) : String :=
  "\n".intercalate parts

/-- The given lines, each ended by a line feed. -/
def endLines (parts : List String) : String :=
  String.join (parts.map (· ++ "\n"))

theorem toList_endLines (parts : List String) :
    (endLines parts).toList = parts.flatMap fun part => part.toList ++ ['\n'] := by
  simp [endLines, String.toList_join, List.flatMap_map, String.toList_append]

end StaticSite.Text
