import StaticSite.Proofs.Page.InlineData
import StaticSite.Proofs.Page.Regions
import StaticSite.Proofs.Text.Infix

/-!
Contract: inline data as an HTML parser scans it inside a script element.

Owns:
- the law that inline data never begins an end tag;
- when inline data holds the mark that starts a comment, behind which the parser no longer
  takes every end tag of a script for its end.

Does not own: what the data is read as (see `StaticSite.Proofs.Page.InlineData`).
-/

namespace StaticSite.Page

open StaticSite.Json StaticSite.Markup StaticSite.Text

/-! ## Marks in guarded texts -/

def endTagStart : List Char :=
  ['<', '/']

def commentStart : List Char :=
  ['<', '!', '-', '-']

theorem not_endTagStart_infix_of_closesNothing {text : List Char}
    (nothing : closesNothing text = true) : ¬ endTagStart <:+: text := by
  induction text with
  | nil => exact fun held => absurd (List.infix_nil.mp held) (by decide)
  | cons first rest inductionHypothesis =>
      cases rest with
      | nil =>
          intro held
          have short := held.length_le
          exact absurd short (by simp [endTagStart])
      | cons second others =>
          simp only [closesNothing, Bool.and_eq_true, Bool.not_eq_true'] at nothing
          intro held
          rcases List.infix_cons_iff.mp held with here | later
          · obtain ⟨isLess, onRest⟩ := List.cons_prefix_cons.mp here
            have isSlash := (List.cons_prefix_cons.mp onRest).1
            rw [← isLess, ← isSlash] at nothing
            exact absurd nothing.1 (by decide)
          · exact inductionHypothesis nothing.2 later

theorem not_endTagStart_infix_guardEndTags (text : List Char) :
    ¬ endTagStart <:+: guardEndTags text := by
  intro held
  have extended := held.trans (List.prefix_append (guardEndTags text) [';']).isInfix
  exact not_endTagStart_infix_of_closesNothing (closesNothing_guardEndTags text) extended

section Guard

variable {mark : List Char} (noSlash : '/' ∉ mark) (noBackslash : '\\' ∉ mark)
include noSlash noBackslash

theorem prefix_guardEndTags_iff (text : List Char) :
    mark <+: guardEndTags text ↔ mark <+: text := by
  induction text using guardEndTags.induct generalizing mark with
  | case1 rest inductionHypothesis =>
      have guarded := prefix_append_cons_iff noBackslash ['<'] ('/' :: guardEndTags rest)
      have unguarded := prefix_append_cons_iff noSlash ['<'] rest
      rw [guardEndTags]
      exact guarded.trans unguarded.symm
  | case2 character rest notTag inductionHypothesis =>
      rw [guardEndTags_cons notTag]
      cases mark with
      | nil => simp
      | cons head further =>
          have later := inductionHypothesis
            (fun member => noSlash (List.mem_cons_of_mem head member))
            (fun member => noBackslash (List.mem_cons_of_mem head member))
          rw [List.cons_prefix_cons, List.cons_prefix_cons, later]
  | case3 => exact Iff.rfl

/-- The guard neither makes nor breaks a mark without slashes. -/
theorem infix_guardEndTags_iff (text : List Char) :
    mark <:+: guardEndTags text ↔ mark <:+: text := by
  induction text using guardEndTags.induct with
  | case1 rest inductionHypothesis =>
      have guarded := infix_append_cons_iff noBackslash ['<'] ('/' :: guardEndTags rest)
      have unguarded := infix_append_cons_iff noSlash ['<'] rest
      rw [infix_cons_iff_of_not_mem noSlash, inductionHypothesis] at guarded
      rw [guardEndTags]
      exact guarded.trans unguarded.symm
  | case2 character rest notTag inductionHypothesis =>
      have here := prefix_guardEndTags_iff noSlash noBackslash (character :: rest)
      rw [guardEndTags_cons notTag] at here ⊢
      rw [List.infix_cons_iff, here, inductionHypothesis, List.infix_cons_iff]
  | case3 => exact Iff.rfl

end Guard

/-! ## Marks in written values -/

/-- The quoting of characters neither touches nor makes a character of the mark. -/
theorem keepsApart_quotedCharacter : KeepsApart commentStart (quotedCharacter false) := by
  have letters : letterEscapes.all (fun escape =>
      decide (escape.1 ∉ commentStart ∧ escape.2 ∉ commentStart)) = true := by decide
  have escapes : ∀ code < 32,
      (unitEscape code).all (fun written => decide (written ∉ commentStart)) = true := by decide
  have printed : OneLine commentStart := by decide
  intro character
  rcases quotedCharacter_cases character with
    ⟨letter, isEscape, isWritten⟩ | ⟨control, isWritten⟩ | ⟨_, _, _, isWritten⟩
  · obtain ⟨letterApart, characterApart⟩ :=
      of_decide_eq_true (List.all_eq_true.mp letters _ isEscape)
    refine Or.inr ⟨characterApart, ?_, ?_⟩
    · rw [isWritten]
      exact List.cons_ne_nil _ _
    · rw [isWritten]
      exact List.forall_mem_cons.mpr ⟨by decide, List.forall_mem_singleton.mpr letterApart⟩
  · refine Or.inr ⟨fun member => ?_, ?_, fun written member => ?_⟩
    · exact absurd (printed character member) (Nat.not_le.mpr control)
    · rw [isWritten]
      exact List.cons_ne_nil _ _
    · rw [isWritten] at member
      exact of_decide_eq_true
        (List.all_eq_true.mp (escapes character.toNat control) written member)
  · exact Or.inl isWritten

theorem not_commentStart_infix_of_scalar {text : List Char}
    (scalar : ∀ character ∈ text, isScalarCharacter character = true) :
    ¬ commentStart <:+: text := by
  intro held
  have inText : '<' ∈ text := held.subset List.mem_cons_self
  exact absurd (scalar '<' inText) (by decide)

theorem commentStart_infix_intercalate_iff (parts : List (List Char)) :
    commentStart <:+: itemGap.intercalate parts ↔ ∃ part ∈ parts, commentStart <:+: part := by
  induction parts with
  | nil => exact iff_of_false (by decide) (by simp)
  | cons first others inductionHypothesis =>
      cases others with
      | nil => simp
      | cons second further =>
          have isText : itemGap.intercalate (first :: second :: further) =
              first ++ ',' :: ' ' :: itemGap.intercalate (second :: further) := by
            simp [itemGap, List.intercalate_cons_cons]
          have noComma : ',' ∉ commentStart := by decide
          have noBlank : ' ' ∉ commentStart := by decide
          rw [isText, infix_append_cons_iff noComma, infix_cons_iff_of_not_mem noBlank,
            inductionHypothesis]
          simp

/-- The start of a comment occurs between marks that it does not have only if it occurs in what
stands between them. -/
theorem commentStart_infix_enclosed_iff {opening closing : Char} (apart : opening ∉ commentStart)
    (alsoApart : closing ∉ commentStart) (inside : List Char) :
    commentStart <:+: opening :: (inside ++ [closing]) ↔ commentStart <:+: inside := by
  have notEmpty : ¬ commentStart <:+: [] := by decide
  rw [infix_cons_iff_of_not_mem apart, infix_append_cons_iff alsoApart, or_iff_left notEmpty]

theorem commentStart_infix_quote_iff (text : String) :
    commentStart <:+: text.toList.flatMap (quotedCharacter false) ↔ commentStart <:+: text.toList :=
  infix_flatMap_iff keepsApart_quotedCharacter text.toList

theorem commentStart_infix_member_iff (name written : String) :
    commentStart <:+: (sortedLayout.member (name, written)).toList ↔
      commentStart <:+: name.toList ∨ commentStart <:+: written.toList := by
  have noQuote : '"' ∉ commentStart := by decide
  have noColon : ':' ∉ commentStart := by decide
  have noBlank : ' ' ∉ commentStart := by decide
  rw [toList_member, infix_cons_iff_of_not_mem noQuote, infix_append_cons_iff noQuote,
    commentStart_infix_quote_iff, List.nil_append, infix_cons_iff_of_not_mem noColon,
    List.singleton_append, infix_cons_iff_of_not_mem noBlank]

theorem commentStart_infix_items_iff {items : List Json} {level : Nat}
    (each : ∀ item ∈ items, commentStart <:+: (writeAt sortedLayout (level + 1) item).toList ↔
      ∃ held, HoldsText held item ∧ commentStart <:+: held.toList) :
    commentStart <:+: (writeAt sortedLayout level (.array items)).toList ↔
      ∃ held, HoldsText held (.array items) ∧ commentStart <:+: held.toList := by
  rw [toList_writeAt_array, commentStart_infix_enclosed_iff (by decide) (by decide),
    commentStart_infix_intercalate_iff]
  simp only [List.mem_map, holdsText_array_iff]
  constructor
  · rintro ⟨_, ⟨item, member, rfl⟩, started⟩
    obtain ⟨held, holds, inHeld⟩ := (each item member).mp started
    exact ⟨held, ⟨item, member, holds⟩, inHeld⟩
  · rintro ⟨held, ⟨item, member, holds⟩, inHeld⟩
    exact ⟨_, ⟨item, member, rfl⟩, (each item member).mpr ⟨held, holds, inHeld⟩⟩

theorem commentStart_infix_members_iff {members : Members} {level : Nat}
    (each : ∀ name value, (name, value) ∈ members →
      (commentStart <:+: (writeAt sortedLayout (level + 1) value).toList ↔
        ∃ held, HoldsText held value ∧ commentStart <:+: held.toList)) :
    commentStart <:+: (writeAt sortedLayout level (.object members)).toList ↔
      ∃ held, HoldsText held (.object members) ∧ commentStart <:+: held.toList := by
  rw [toList_writeAt_object, commentStart_infix_enclosed_iff (by decide) (by decide),
    commentStart_infix_intercalate_iff]
  simp only [List.mem_map, holdsText_object_iff]
  -- Members are written in the order of their names, which changes nothing about what they hold.
  constructor
  · rintro ⟨_, ⟨⟨name, value⟩, inOrder, rfl⟩, started⟩
    have member := (perm_sortByName members).mem_iff.mp inOrder
    rcases (commentStart_infix_member_iff _ _).mp started with inName | inValue
    · exact ⟨name, ⟨name, value, member, Or.inl rfl⟩, inName⟩
    · obtain ⟨held, holds, inHeld⟩ := (each name value member).mp inValue
      exact ⟨held, ⟨name, value, member, Or.inr holds⟩, inHeld⟩
  · rintro ⟨held, ⟨name, value, member, isHeld⟩, inHeld⟩
    have inOrder := (perm_sortByName members).mem_iff.mpr member
    refine ⟨_, ⟨(name, value), inOrder, rfl⟩, (commentStart_infix_member_iff _ _).mpr ?_⟩
    rcases isHeld with rfl | holds
    · exact Or.inl inHeld
    · exact Or.inr ((each name value member).mpr ⟨held, holds, inHeld⟩)

/-- A written value holds the start of a comment exactly where one of its texts does. -/
theorem commentStart_infix_writeAt_iff (value : Json) (level : Nat) :
    commentStart <:+: (writeAt sortedLayout level value).toList ↔
      ∃ held, HoldsText held value ∧ commentStart <:+: held.toList := by
  have scalar {source : List Char} {value : Json}
      (characters : ∀ character ∈ source, isScalarCharacter character = true)
      (noText : value.asText? = none) (isScalar : value.isScalar = true) :
      commentStart <:+: source ↔ ∃ held, HoldsText held value ∧ commentStart <:+: held.toList :=
    iff_of_false (not_commentStart_infix_of_scalar characters)
      fun ⟨held, holds, _⟩ => not_holdsText_of_scalar noText isScalar held holds
  induction value using treeInduction generalizing level with
  | null => exact scalar (fun _ member => isScalarCharacter_of_mem_null member) rfl rfl
  | bool value => exact scalar (fun _ member => isScalarCharacter_of_mem_bool member) rfl rfl
  | int value => exact scalar (fun _ member => isScalarCharacter_of_mem_int member) rfl rfl
  | real number => exact scalar (fun _ member => isScalarCharacter_of_mem_number member) rfl rfl
  | text value =>
      have noQuote : '"' ∉ commentStart := by decide
      have isText := commentStart_infix_enclosed_iff noQuote noQuote
        (value.toList.flatMap (quotedCharacter false))
      rw [commentStart_infix_quote_iff] at isText
      simp only [holdsText_text_iff, exists_eq_left]
      rw [writeAt, toList_quote]
      exact isText
  | array items inductionHypothesis =>
      exact commentStart_infix_items_iff fun item member =>
        inductionHypothesis item member (level + 1)
  | object members inductionHypothesis =>
      exact commentStart_infix_members_iff fun name value member =>
        inductionHypothesis name value member (level + 1)

/-! ## Inline data -/

theorem keepsEach_toLower {mark : List Char}
    (noLetters : mark.all (fun special => !special.isAlpha) = true) :
    KeepsEach mark Char.toLower := by
  intro special member
  have notLetter := List.all_eq_true.mp noLetters special member
  rw [Bool.not_eq_true'] at notLetter
  exact toLower_eq_iff notLetter

/-- Inline data never ends its script, in any case of letters. It holds the start of a comment
exactly if a text or a name in the data holds it. -/
theorem script_data_marks_iff (value : Json) :
    ¬ "</script".toList <:+: foldLetters (inlineData value).toList ∧
      ("<!--".toList <:+: foldLetters (inlineData value).toList ↔
        ∃ text, HoldsText text value ∧ "<!--".toList <:+: text.toList) := by
  have isMark : "<!--".toList = commentStart := by decide
  have beginsTag : endTagStart <:+: "</script".toList := by decide
  constructor
  · intro ended
    have begun := beginsTag.trans ended
    rw [foldLetters, infix_map_iff (keepsEach_toLower (by decide)), toList_inlineData] at begun
    exact not_endTagStart_infix_guardEndTags _ begun
  · rw [isMark, foldLetters, infix_map_iff (keepsEach_toLower (by decide)), toList_inlineData,
      infix_guardEndTags_iff (by decide) (by decide), commentStart_infix_writeAt_iff]

/-- Not all inline data is free of the start of a comment: a text is handed on with it. -/
theorem not_script_data_free_of_marks :
    ¬ ∀ value : Json, ¬ "</script".toList <:+: foldLetters (inlineData value).toList ∧
      ¬ "<!--".toList <:+: foldLetters (inlineData value).toList := by
  intro free
  have started : "<!--".toList <:+: foldLetters (inlineData (.text "<!--")).toList := by
    rw [toList_inlineData, writeAt, toList_quote]
    decide
  exact (free (.text "<!--")).2 started

end StaticSite.Page
