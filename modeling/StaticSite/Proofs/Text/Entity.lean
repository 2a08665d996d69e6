import StaticSite.Text.Entity

/-!
Contract: the laws of character entities.

Owns:
- the characters that escaped text never holds;
- reading entities back, which undoes escaping;
- texts that hold no other entities than those of escaped text.

Does not own: where escaped text stands (see `StaticSite.Markup.Html`).
-/

namespace StaticSite.Text

/-! ## What escaped text does not hold -/

/-- A list of characters without angle brackets and double quotes holds none of them. -/
theorem apart_of_all {entity : List Char} {inside : Char}
    (allApart : entity.all (fun character =>
      character != '<' && character != '>' && character != '"') = true)
    (member : inside ∈ entity) : inside ≠ '<' ∧ inside ≠ '>' ∧ inside ≠ '"' := by
  have apart := List.all_eq_true.mp allApart inside member
  simp only [Bool.and_eq_true, bne_iff_ne] at apart
  exact ⟨apart.1.1, apart.1.2, apart.2⟩

theorem mem_contentEntity {character inside : Char} (member : inside ∈ contentEntity character) :
    inside ≠ '<' ∧ inside ≠ '>' ∧ inside ≠ '"' := by
  unfold contentEntity at member
  split at member
  · exact apart_of_all (by decide) member
  · exact apart_of_all (by decide) member
  · exact apart_of_all (by decide) member
  · exact apart_of_all (by decide) member
  · rename_i notAmpersand notLess notGreater notQuote
    rw [List.mem_singleton.mp member]
    exact ⟨notLess, notGreater, notQuote⟩

theorem mem_attributeEntity {character inside : Char}
    (member : inside ∈ attributeEntity character) :
    inside ≠ '<' ∧ inside ≠ '>' ∧ inside ≠ '"' := by
  unfold attributeEntity at member
  split at member
  · exact apart_of_all (by decide) member
  · exact mem_contentEntity member

/-- Text escaped for content holds no angle bracket and no double quote. -/
theorem mem_escapeContent {text : String} {inside : Char}
    (member : inside ∈ (escapeContent text).toList) :
    inside ≠ '<' ∧ inside ≠ '>' ∧ inside ≠ '"' := by
  rw [toList_escapeContent] at member
  obtain ⟨character, _, inEntity⟩ := List.mem_flatMap.mp member
  exact mem_contentEntity inEntity

/-- Text escaped for any place holds no angle bracket and no double quote. -/
theorem mem_escape {text : String} {inside : Char} (member : inside ∈ (escape text).toList) :
    inside ≠ '<' ∧ inside ≠ '>' ∧ inside ≠ '"' := by
  rw [toList_escape] at member
  obtain ⟨character, _, inEntity⟩ := List.mem_flatMap.mp member
  exact mem_attributeEntity inEntity

/-! ## Reading entities back -/

/-- A text with the five entities of escaped text replaced by their characters. -/
def decodeEntities : List Char → List Char
  | '&' :: 'a' :: 'm' :: 'p' :: ';' :: rest => '&' :: decodeEntities rest
  | '&' :: 'l' :: 't' :: ';' :: rest => '<' :: decodeEntities rest
  | '&' :: 'g' :: 't' :: ';' :: rest => '>' :: decodeEntities rest
  | '&' :: 'q' :: 'u' :: 'o' :: 't' :: ';' :: rest => '"' :: decodeEntities rest
  | '&' :: '#' :: 'x' :: '2' :: '7' :: ';' :: rest => '\'' :: decodeEntities rest
  | character :: rest => character :: decodeEntities rest
  | [] => []

theorem decodeEntities_cons_of_ne {character : Char} (plain : character ≠ '&')
    (rest : List Char) : decodeEntities (character :: rest) = character :: decodeEntities rest := by
  rw [decodeEntities.eq_def]
  split <;> simp_all

theorem decodeEntities_contentEntity (character : Char) (rest : List Char) :
    decodeEntities (contentEntity character ++ rest) = character :: decodeEntities rest := by
  unfold contentEntity
  split
  · rfl
  · rfl
  · rfl
  · rfl
  · rename_i notAmpersand _ _ _
    exact decodeEntities_cons_of_ne notAmpersand rest

theorem decodeEntities_attributeEntity (character : Char) (rest : List Char) :
    decodeEntities (attributeEntity character ++ rest) = character :: decodeEntities rest := by
  unfold attributeEntity
  split
  · rfl
  · exact decodeEntities_contentEntity character rest

/-- Reading entities back undoes any escaping that it undoes for each character. -/
theorem decodeEntities_flatMap {entity : Char → List Char}
    (undoes : ∀ character rest,
      decodeEntities (entity character ++ rest) = character :: decodeEntities rest)
    (text rest : List Char) :
    decodeEntities (text.flatMap entity ++ rest) = text ++ decodeEntities rest := by
  induction text with
  | nil => rfl
  | cons character others inductionHypothesis =>
      rw [List.flatMap_cons, List.append_assoc, undoes, inductionHypothesis, List.cons_append]

theorem decodeEntities_append_of_not_mem {text : List Char} (plain : '&' ∉ text)
    (rest : List Char) : decodeEntities (text ++ rest) = text ++ decodeEntities rest := by
  induction text with
  | nil => rfl
  | cons character others inductionHypothesis =>
      have notAmpersand : character ≠ '&' := (List.ne_of_not_mem_cons plain).symm
      have plainLater : '&' ∉ others := List.not_mem_of_not_mem_cons plain
      rw [List.cons_append, decodeEntities_cons_of_ne notAmpersand, inductionHypothesis plainLater,
        List.cons_append]

/-- Reading entities back undoes escaping. -/
theorem decodeEntities_escape (text : String) :
    decodeEntities (escape text).toList = text.toList := by
  have undone := decodeEntities_flatMap decodeEntities_attributeEntity text.toList []
  rw [List.append_nil, decodeEntities, List.append_nil] at undone
  rw [toList_escape]
  exact undone

/-- Different texts stay different when they are escaped. -/
theorem escape_injective {text other : String}
    (same : (escape text).toList = (escape other).toList) : text = other := by
  have decoded := congrArg decodeEntities same
  rw [decodeEntities_escape, decodeEntities_escape] at decoded
  exact String.toList_inj.mp decoded

/-! ## Known entities -/

def entities : List (List Char) :=
  [ ['&', 'a', 'm', 'p', ';'], ['&', 'l', 't', ';'], ['&', 'g', 't', ';'],
    ['&', 'q', 'u', 'o', 't', ';'], ['&', '#', 'x', '2', '7', ';'] ]

/-- Whether every ampersand of a text begins an entity of escaped text. -/
def hasKnownEntities : List Char → Bool
  | [] => true
  | character :: rest =>
      (character != '&' || entities.any (·.isPrefixOf (character :: rest))) && hasKnownEntities rest

theorem hasKnownEntities_append {text rest : List Char} (known : hasKnownEntities text = true)
    (knownRest : hasKnownEntities rest = true) : hasKnownEntities (text ++ rest) = true := by
  induction text with
  | nil => exact knownRest
  | cons character others inductionHypothesis =>
      rw [hasKnownEntities, Bool.and_eq_true, Bool.or_eq_true, List.any_eq_true] at known
      rw [List.cons_append, hasKnownEntities, Bool.and_eq_true, Bool.or_eq_true, List.any_eq_true]
      refine ⟨known.1.imp_right ?_, inductionHypothesis known.2⟩
      rintro ⟨entity, isEntity, begins⟩
      have isPrefix := (List.isPrefixOf_iff_prefix.mp begins).trans (List.prefix_append _ rest)
      exact ⟨entity, isEntity, List.isPrefixOf_iff_prefix.mpr isPrefix⟩

theorem hasKnownEntities_of_not_mem {text : List Char} (plain : '&' ∉ text) :
    hasKnownEntities text = true := by
  induction text with
  | nil => rfl
  | cons character others inductionHypothesis =>
      have notAmpersand : character ≠ '&' := (List.ne_of_not_mem_cons plain).symm
      have plainLater : '&' ∉ others := List.not_mem_of_not_mem_cons plain
      rw [hasKnownEntities, bne_iff_ne.mpr notAmpersand, inductionHypothesis plainLater]
      rfl

theorem hasKnownEntities_contentEntity (character : Char) :
    hasKnownEntities (contentEntity character) = true := by
  unfold contentEntity
  split
  · rfl
  · rfl
  · rfl
  · rfl
  · rename_i notAmpersand _ _ _
    exact hasKnownEntities_of_not_mem (List.not_mem_cons_of_ne_of_not_mem (Ne.symm notAmpersand)
      List.not_mem_nil)

theorem hasKnownEntities_attributeEntity (character : Char) :
    hasKnownEntities (attributeEntity character) = true := by
  unfold attributeEntity
  split
  · rfl
  · exact hasKnownEntities_contentEntity character

theorem hasKnownEntities_flatMap {entity : Char → List Char}
    (known : ∀ character, hasKnownEntities (entity character) = true) (text : List Char) :
    hasKnownEntities (text.flatMap entity) = true := by
  induction text with
  | nil => rfl
  | cons character others inductionHypothesis =>
      rw [List.flatMap_cons]
      exact hasKnownEntities_append (known character) inductionHypothesis

theorem hasKnownEntities_escapeContent (text : String) :
    hasKnownEntities (escapeContent text).toList = true := by
  rw [toList_escapeContent]
  exact hasKnownEntities_flatMap hasKnownEntities_contentEntity text.toList

theorem hasKnownEntities_escape (text : String) : hasKnownEntities (escape text).toList = true := by
  rw [toList_escape]
  exact hasKnownEntities_flatMap hasKnownEntities_attributeEntity text.toList

end StaticSite.Text
