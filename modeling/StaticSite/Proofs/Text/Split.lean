import StaticSite.Text.Split

/-!
Contract: the laws of cutting a text at one character.

Owns:
- agreement with the splitting of lists;
- recovery of texts that were joined by the separator, and of the first of some lines.

Does not own: which separator a format has.
-/

namespace StaticSite.Text

/-- Cutting a text at a character is splitting the list of its characters. -/
theorem pieces_eq_splitOn (separator : Char) (text : List Char) :
    pieces separator text = text.splitOn separator := by
  induction text with
  | nil => rfl
  | cons character rest inductionHypothesis =>
      rw [List.splitOn_cons_eq_if_modifyHead, ← inductionHypothesis]
      simp only [pieces]
      split
      · rfl
      · cases restPieces : pieces separator rest with
        | nil => exact absurd restPieces (pieces_ne_nil separator rest)
        | cons first others => rfl

/-- Texts that were joined by a separator which none of them holds are its pieces. -/
theorem splitAt_intercalate {separator : Char} {mark : String} {parts : List String}
    (isMark : mark.toList = [separator]) (someParts : parts ≠ [])
    (plain : ∀ part ∈ parts, separator ∉ part.toList) :
    splitAt separator (mark.intercalate parts) = parts := by
  have plainCharacters : ∀ piece ∈ parts.map String.toList, separator ∉ piece := by
    intro piece member
    obtain ⟨part, partMember, rfl⟩ := List.mem_map.mp member
    exact plain part partMember
  have someCharacters : parts.map String.toList ≠ [] := by
    simpa using someParts
  rw [splitAt, String.toList_intercalate, isMark, pieces_eq_splitOn,
    List.splitOn_intercalate separator plainCharacters someCharacters, List.map_map]
  simp [Function.comp_def]

theorem separator_not_mem_of_mem_splitAt {separator : Char} {text piece : String}
    (member : piece ∈ splitAt separator text) : separator ∉ piece.toList := by
  obtain ⟨characters, charactersMember, rfl⟩ := List.mem_map.mp member
  rw [String.toList_ofList]
  exact separator_not_mem_of_mem_pieces separator text.toList characters charactersMember

theorem contains_splitAt_iff {separator : Char} {text word : String} :
    (splitAt separator text).contains word = true ↔
      word.toList ∈ pieces separator text.toList := by
  rw [List.contains_iff_mem, splitAt, List.mem_map]
  constructor
  · rintro ⟨piece, member, rfl⟩
    rw [String.toList_ofList]
    exact member
  · intro member
    exact ⟨word.toList, member, String.ofList_toList⟩

/-- Before a separator at the head of a text there is an empty piece. -/
theorem splitAt_of_toList_cons {separator : Char} {text rest : String}
    (starts : text.toList = separator :: rest.toList) :
    splitAt separator text = "" :: splitAt separator rest := by
  simp [splitAt, starts, pieces]

/-- The pieces of a text on both sides of a separator are cut apart. -/
theorem pieces_append (separator : Char) (before after : List Char) :
    pieces separator (before ++ separator :: after) =
      pieces separator before ++ pieces separator after := by
  induction before with
  | nil => simp [pieces]
  | cons character rest inductionHypothesis =>
      simp only [List.cons_append, pieces, inductionHypothesis]
      split
      · rfl
      · cases restPieces : pieces separator rest with
        | nil => exact absurd restPieces (pieces_ne_nil separator rest)
        | cons first others => rfl

/-- Words behind separators are further words. -/
theorem mem_pieces_append_iff {separator : Char} {word : List Char} {chunks : List (List Char)}
    (further : ∀ chunk ∈ chunks, ∃ words,
      chunk = separator :: words ∧ word ∉ pieces separator words) (text : List Char) :
    word ∈ pieces separator (text ++ chunks.flatten) ↔ word ∈ pieces separator text := by
  induction chunks generalizing text with
  | nil => rw [List.flatten_nil, List.append_nil]
  | cons chunk others inductionHypothesis =>
      obtain ⟨⟨words, rfl, apart⟩, furtherLater⟩ := List.forall_mem_cons.mp further
      rw [List.flatten_cons, List.cons_append, pieces_append, List.mem_append,
        inductionHypothesis furtherLater]
      exact or_iff_left apart

theorem splitAt_of_not_mem {separator : Char} {text : String}
    (plain : separator ∉ text.toList) : splitAt separator text = [text] := by
  rw [splitAt, pieces_eq_splitOn, List.splitOn_eq_singleton plain]
  simp

/-- The last piece of a text is what follows its last separator. -/
theorem splitAt_append_of_not_mem {separator : Char} {mark before word : String}
    (isMark : mark.toList = [separator]) (plain : separator ∉ word.toList) :
    splitAt separator (before ++ mark ++ word) = splitAt separator before ++ [word] := by
  have onlyPiece := splitAt_of_not_mem plain
  rw [splitAt] at onlyPiece
  rw [splitAt, splitAt, String.toList_append, String.toList_append, isMark, List.append_assoc,
    List.singleton_append, pieces_append, List.map_append, onlyPiece]

/-- A line that holds no line feed is cut off where it ends. -/
theorem splitAt_endLines_cons {first : String} (oneLine : '\n' ∉ first.toList)
    (others : List String) :
    splitAt '\n' (endLines (first :: others)) = first :: splitAt '\n' (endLines others) := by
  have alone := splitAt_of_not_mem oneLine
  rw [splitAt] at alone
  rw [splitAt, splitAt, toList_endLines, toList_endLines, List.flatMap_cons, List.append_assoc,
    List.singleton_append, pieces_append, List.map_append, alone]
  rfl

end StaticSite.Text
