import StaticSite.Page.Document
import StaticSite.Proofs.Json.Writing

/-!
Contract: data inside script elements, read as JSON.

Owns:
- how the guard against end tags treats parts of a text;
- the law that a guarded text of a value is a text of the same value;
- the law that inline data is one line and is read as the same data.

Does not own: what an HTML parser makes of the data (see
`StaticSite.Proofs.Page.ScriptData`).
-/

namespace StaticSite.Page

open StaticSite.Json

/-! ## The guard on parts of a text -/

theorem guardEndTags_cons {character : Char} {rest : List Char}
    (notTag : ∀ further, character = '<' → rest = '/' :: further → False) :
    guardEndTags (character :: rest) = character :: guardEndTags rest := by
  rw [guardEndTags]
  exact notTag

theorem guardEndTags_cons_of_ne {character : Char} (plain : character ≠ '<') (rest : List Char) :
    guardEndTags (character :: rest) = character :: guardEndTags rest :=
  guardEndTags_cons fun _ isLess _ => plain isLess

theorem guardEndTags_cons_of_head {rest : List Char} (noSlash : rest.head? ≠ some '/')
    (character : Char) : guardEndTags (character :: rest) = character :: guardEndTags rest := by
  apply guardEndTags_cons
  rintro further - rfl
  exact noSlash rfl

/-- A part without left angle brackets stays as it is. -/
theorem guardEndTags_append_of_not_mem {first : List Char} (plain : '<' ∉ first)
    (rest : List Char) : guardEndTags (first ++ rest) = first ++ guardEndTags rest := by
  induction first with
  | nil => rfl
  | cons character others inductionHypothesis =>
      rw [List.mem_cons, not_or] at plain
      rw [List.cons_append, guardEndTags_cons_of_ne (Ne.symm plain.1),
        inductionHypothesis plain.2, List.cons_append]

theorem guardEndTags_of_not_mem {text : List Char} (plain : '<' ∉ text) :
    guardEndTags text = text := by
  have whole := guardEndTags_append_of_not_mem plain []
  rw [List.append_nil] at whole
  exact whole.trans (List.append_nil text)

theorem exists_of_guardEndTags_eq_append {first rest source : List Char} (plain : '<' ∉ first)
    (isGuarded : guardEndTags source = first ++ rest) : ∃ others, source = first ++ others := by
  induction first generalizing source with
  | nil => exact ⟨source, rfl⟩
  | cons character further inductionHypothesis =>
      obtain ⟨notLess, plainFurther⟩ := not_or.mp (List.mem_cons.not.mp plain)
      unfold guardEndTags at isGuarded
      split at isGuarded
      · exact absurd (List.cons.inj isGuarded).1 notLess
      · obtain ⟨rfl, isRest⟩ := List.cons.inj isGuarded
        obtain ⟨others, rfl⟩ := inductionHypothesis plainFurther isRest
        exact ⟨others, rfl⟩
      · cases isGuarded

/-- Parts are guarded one by one where no slash begins the second one. -/
theorem guardEndTags_append {second : List Char} (noSlash : second.head? ≠ some '/')
    (first : List Char) :
    guardEndTags (first ++ second) = guardEndTags first ++ guardEndTags second := by
  induction first using guardEndTags.induct with
  | case1 rest inductionHypothesis =>
      simp only [List.cons_append, guardEndTags, inductionHypothesis]
  | case2 character rest notTag inductionHypothesis =>
      rw [guardEndTags_cons notTag, List.cons_append, List.cons_append, ← inductionHypothesis]
      cases rest with
      | nil => exact guardEndTags_cons_of_head noSlash character
      | cons next others =>
          apply guardEndTags_cons
          intro further isLess isSlash
          exact notTag others isLess (by rw [(List.cons.inj isSlash).1])
  | case3 => rfl

theorem mem_guardEndTags {text : List Char} {character : Char}
    (member : character ∈ guardEndTags text) : character = '\\' ∨ character ∈ text := by
  induction text using guardEndTags.induct with
  | case1 rest inductionHypothesis =>
      simp only [guardEndTags, List.mem_cons] at member ⊢
      tauto
  | case2 first rest notTag inductionHypothesis =>
      rw [guardEndTags_cons notTag, List.mem_cons] at member
      rw [List.mem_cons]
      tauto
  | case3 => cases member

/-! ## Guarded texts of values -/

theorem less_not_mem_hexEscape {first second third fourth : Char} {unit : Nat}
    (digits : hexQuad? first second third fourth = some unit) :
    '<' ∉ ['\\', 'u', first, second, third, fourth] := by
  have unknown : hexValue? '<' = none := by decide
  intro member
  simp only [List.mem_cons, List.not_mem_nil, or_false] at member
  rcases member with backslash | letter | rfl | rfl | rfl | rfl
  · exact absurd backslash (by decide)
  · exact absurd letter (by decide)
  all_goals
    unfold hexQuad? at digits
    rw [unknown] at digits
    split at digits
    · simp_all
    · cases digits

/-- The escape of a code unit needs no guard. -/
theorem guardEndTags_hexEscape {first second third fourth : Char} {unit : Nat}
    (digits : hexQuad? first second third fourth = some unit) (rest : List Char) :
    guardEndTags ('\\' :: 'u' :: first :: second :: third :: fourth :: rest) =
      '\\' :: 'u' :: first :: second :: third :: fourth :: guardEndTags rest :=
  guardEndTags_append_of_not_mem (less_not_mem_hexEscape digits) rest

/-- No escape of a second half comes to the beginning by guarding. -/
theorem beginsWithSecondHalf_of_guardEndTags {source : List Char}
    (begins : BeginsWithSecondHalf (guardEndTags source)) : BeginsWithSecondHalf source := by
  obtain ⟨first, second, third, fourth, half, rest, isGuarded, digits, isLow⟩ := begins
  obtain ⟨others, isSource⟩ :=
    exists_of_guardEndTags_eq_append (less_not_mem_hexEscape digits) isGuarded
  exact ⟨first, second, third, fourth, half, others, isSource, digits, isLow⟩

/-- A guarded spelling spells the same text: a backslash before a slash stands for nothing. -/
theorem spells_guardEndTags {source text : List Char} (spells : Spells source text) :
    Spells (guardEndTags source) text := by
  induction spells with
  | nothing => exact .nothing
  | @plain character source text printed noQuote noBackslash rest inductionHypothesis =>
      by_cases tag : character = '<' ∧ source.head? = some '/'
      · obtain ⟨rfl, isSlash⟩ := tag
        cases source with
        | nil => cases isSlash
        | cons next others =>
            cases isSlash
            -- The slash spells itself; with the backslash it is an escape of itself.
            rw [guardEndTags_cons_of_ne (by decide)] at inductionHypothesis
            rw [guardEndTags]
            cases inductionHypothesis with
            | plain _ _ _ others => exact .plain printed noQuote noBackslash (.letter rfl others)
      · rw [guardEndTags_cons]
        · exact .plain printed noQuote noBackslash inductionHypothesis
        · rintro further rfl rfl
          exact tag ⟨rfl, rfl⟩
  | @letter letter character source text known rest inductionHypothesis =>
      have plain : letter ≠ '<' := by
        rintro rfl
        cases known
      rw [guardEndTags_cons_of_ne (by decide), guardEndTags_cons_of_ne plain]
      exact .letter known inductionHypothesis
  | unit digits alone rest inductionHypothesis =>
      rw [guardEndTags_hexEscape digits]
      refine .unit digits (fun isHigh begins => ?_) inductionHypothesis
      exact alone isHigh (beginsWithSecondHalf_of_guardEndTags begins)
  | pair highDigits lowDigits isHigh isLow rest inductionHypothesis =>
      rw [guardEndTags_hexEscape highDigits, guardEndTags_hexEscape lowDigits]
      exact .pair highDigits lowDigits isHigh isLow inductionHypothesis

theorem less_not_mem_of_blank {blanks : List Char} (blank : blanks.all isTokenBlank = true) :
    '<' ∉ blanks := by
  intro member
  exact absurd (List.all_eq_true.mp blank '<' member) (by decide)

theorem head?_ne_slash_of_delimited {rest : List Char} (delimited : Delimited (rest ++ [])) :
    rest.head? ≠ some '/' := by
  rw [List.append_nil] at delimited
  intro isSlash
  exact absurd (delimited '/' isSlash) (by decide)

theorem guardEndTags_quoted (source rest : List Char) :
    guardEndTags ('"' :: (source ++ '"' :: rest)) =
      '"' :: (guardEndTags source ++ '"' :: guardEndTags rest) := by
  rw [guardEndTags_cons_of_ne (by decide), guardEndTags_append (by simp),
    guardEndTags_cons_of_ne (by decide)]

theorem guardEndTags_mark {mark : Char} (plain : mark ≠ '<') {blanks : List Char}
    (blank : blanks.all isTokenBlank = true) (rest : List Char) :
    guardEndTags (mark :: (blanks ++ rest)) = mark :: (blanks ++ guardEndTags rest) := by
  rw [guardEndTags_cons_of_ne plain, guardEndTags_append_of_not_mem (less_not_mem_of_blank blank)]

mutual

/-- A guarded text of a value is a text of the same value. -/
theorem denotes_guardEndTags {source : List Char} {value : Json} :
    Denotes source value → Denotes (guardEndTags source) value
  | .scalar spells => by
      have plain : '<' ∉ source := by
        intro member
        exact absurd (spells.2 '<' member) (by decide)
      rw [guardEndTags_of_not_mem plain]
      exact .scalar spells
  | .text inside spells => by
      rw [guardEndTags_quoted]
      exact .text _ (spells_guardEndTags spells)
  | .emptyArray blanks blank => by
      rw [guardEndTags_mark (by decide) blank]
      exact .emptyArray blanks blank
  | .array blanks item tail blank first others => by
      have noSlash := head?_ne_slash_of_delimited (delimited_of_denotesItems others [])
      rw [guardEndTags_mark (by decide) blank, guardEndTags_append noSlash]
      exact .array blanks _ _ blank (denotes_guardEndTags first) (denotesItems_guardEndTags others)
  | .emptyObject blanks blank => by
      rw [guardEndTags_mark (by decide) blank]
      exact .emptyObject blanks blank
  | .object blanks member tail name held members blank first others distinct => by
      have noSlash := head?_ne_slash_of_delimited (delimited_of_denotesMembers others [])
      rw [guardEndTags_mark (by decide) blank, guardEndTags_append noSlash]
      exact .object blanks _ _ name held members blank (denotesMember_guardEndTags first)
        (denotesMembers_guardEndTags others) distinct

theorem denotesItems_guardEndTags {tail : List Char} {values : List Json} :
    DenotesItems tail values → DenotesItems (guardEndTags tail) values
  | .close blanks blank => by
      rw [guardEndTags_append_of_not_mem (less_not_mem_of_blank blank)]
      exact .close blanks blank
  | .next before after item tail value blankBefore blankAfter first others => by
      have noSlash := head?_ne_slash_of_delimited (delimited_of_denotesItems others [])
      rw [guardEndTags_append_of_not_mem (less_not_mem_of_blank blankBefore),
        guardEndTags_mark (by decide) blankAfter, guardEndTags_append noSlash]
      exact .next before after _ _ value blankBefore blankAfter (denotes_guardEndTags first)
        (denotesItems_guardEndTags others)

theorem denotesMember_guardEndTags {source : List Char} {name : String} {value : Json} :
    DenotesMember source name value → DenotesMember (guardEndTags source) name value
  | .named inside before after written spells blankBefore blankAfter held => by
      rw [guardEndTags_quoted, guardEndTags_append_of_not_mem (less_not_mem_of_blank blankBefore),
        guardEndTags_mark (by decide) blankAfter]
      exact .named _ before after _ (spells_guardEndTags spells) blankBefore blankAfter
        (denotes_guardEndTags held)

theorem denotesMembers_guardEndTags {tail : List Char} {members : Members} :
    DenotesMembers tail members → DenotesMembers (guardEndTags tail) members
  | .close blanks blank => by
      rw [guardEndTags_append_of_not_mem (less_not_mem_of_blank blank)]
      exact .close blanks blank
  | .next before after member tail name value blankBefore blankAfter first others => by
      have noSlash := head?_ne_slash_of_delimited (delimited_of_denotesMembers others [])
      rw [guardEndTags_append_of_not_mem (less_not_mem_of_blank blankBefore),
        guardEndTags_mark (by decide) blankAfter, guardEndTags_append noSlash]
      exact .next before after _ _ name value blankBefore blankAfter
        (denotesMember_guardEndTags first) (denotesMembers_guardEndTags others)

end

/-! ## Inline data -/

theorem toList_inlineData (value : Json) :
    (inlineData value).toList = guardEndTags (writeAt sortedLayout 0 value).toList := by
  rw [inlineData, String.toList_ofList, write]

theorem oneLine_inlineData (value : Json) : OneLine (inlineData value).toList := by
  intro character member
  rw [toList_inlineData] at member
  rcases mem_guardEndTags member with isBackslash | inWritten
  · rw [isBackslash]
    decide
  · exact oneLine_writeAt value 0 character inWritten

/-- Inline data is read as the value with sorted members. -/
theorem read_inlineData {value : Json} (regular : value.IsRegular)
    (readBack : ∀ number ∈ value.reals, ReadsBack number)
    (fits : value.depth ≤ openContainerLimit) : Json.read (inlineData value) = .ok value.sorted := by
  have denotes := denotes_guardEndTags (denotes_writeAt regular readBack 0)
  rw [Json.read, toList_inlineData]
  exact readCharacters_of_denotes denotes ((depth_sorted value).le.trans fits)

/-- Inline data is read as the same data. -/
theorem exists_read_inlineData {value : Json} (regular : value.IsRegular)
    (readBack : ∀ number ∈ value.reals, ReadsBack number)
    (fits : value.depth ≤ openContainerLimit) :
    ∃ data, Json.read (inlineData value) = .ok data ∧ SameData value data :=
  ⟨value.sorted, read_inlineData regular readBack fits,
    sameData_sorted fun _ occurs => regular _ occurs⟩

end StaticSite.Page
