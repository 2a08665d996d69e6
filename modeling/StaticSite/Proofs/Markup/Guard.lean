import StaticSite.Proofs.Markup.EndTag

/-!
Contract: trees of markup whose values end nothing.

Owns:
- the end tags that a tree writes, in the order of its text;
- guarded trees, whose literals hold no left angle bracket and whose verbatim text holds
  no end tag;
- the law that the text of a guarded tree holds its own end tags and no others.

Does not own: which trees are guarded (see `StaticSite.Proofs.Markup.Filling`).
-/

namespace StaticSite.Markup

/-! ## Pieces and attributes -/

/-- Whether a literal text holds no left angle bracket. Bytes are tested, not characters,
since evaluation has the bytes of a literal at hand. -/
def isPlainText (text : String) : Bool :=
  !text.toByteArray.data.toList.contains 60

theorem bytes_eq_flatMap (text : String) :
    text.toByteArray.data.toList = text.toList.flatMap String.utf8EncodeChar := by
  rw [← String.utf8Encode_toList, List.utf8Encode, List.data_toByteArray]

theorem not_mem_of_not_mem_bytes {text : String} {character : Char} {byte : UInt8}
    (absent : (!text.toByteArray.data.toList.contains byte) = true)
    (isByte : byte ∈ String.utf8EncodeChar character) : character ∉ text.toList := by
  intro member
  have held := List.mem_flatMap.mpr ⟨character, member, isByte⟩
  rw [bytes_eq_flatMap, List.contains_iff_mem.mpr held] at absent
  cases absent

theorem less_not_mem_of_isPlainText {text : String} (plain : isPlainText text = true) :
    '<' ∉ text.toList :=
  not_mem_of_not_mem_bytes plain (by decide)

/-- Whether a piece that is literal markup holds no left angle bracket. -/
def Piece.isPlain : Piece → Bool
  | .literal text => isPlainText text
  | _ => true

theorem less_not_mem_render {piece : Piece} (plain : piece.isPlain = true) :
    '<' ∉ piece.render.toList := by
  cases piece with
  | literal text => exact less_not_mem_of_isPlainText plain
  | content value => exact fun member => (Text.mem_escapeContent member).1 rfl
  | anywhere value => exact fun member => (Text.mem_escape member).1 rfl

theorem exists_of_mem_renderPieces {pieces : List Piece} {character : Char}
    (member : character ∈ (renderPieces pieces).toList) :
    ∃ piece ∈ pieces, character ∈ piece.render.toList := by
  rw [renderPieces, String.toList_join, List.mem_flatMap] at member
  obtain ⟨text, isText, inText⟩ := member
  obtain ⟨piece, isPiece, rfl⟩ := List.mem_map.mp isText
  exact ⟨piece, isPiece, inText⟩

theorem less_not_mem_renderPieces {pieces : List Piece}
    (plain : pieces.all Piece.isPlain = true) : '<' ∉ (renderPieces pieces).toList := by
  intro member
  obtain ⟨piece, isPiece, inText⟩ := exists_of_mem_renderPieces member
  exact less_not_mem_render (List.all_eq_true.mp plain piece isPiece) inText

/-- Whether the literal parts of an attribute hold no left angle bracket. -/
def Attribute.isPlain : Attribute → Bool
  | .valued name pieces => isPlainText name && pieces.all Piece.isPlain
  | .bare name => isPlainText name

theorem less_not_mem_attribute {written : Attribute} (plain : written.isPlain = true) :
    '<' ∉ written.render.toList := by
  cases written with
  | valued name pieces =>
      have parts := Bool.and_eq_true_iff.mp plain
      intro member
      simp only [Attribute.render, String.toList_append, List.mem_append] at member
      rcases member with (((blank | inName) | equals) | inPieces) | quote
      · exact absurd blank (by decide)
      · exact less_not_mem_of_isPlainText parts.1 inName
      · exact absurd equals (by decide)
      · exact less_not_mem_renderPieces parts.2 inPieces
      · exact absurd quote (by decide)
  | bare name =>
      intro member
      simp only [Attribute.render, String.toList_append, List.mem_append] at member
      rcases member with blank | inName
      · exact absurd blank (by decide)
      · exact less_not_mem_of_isPlainText plain inName

/-! ## Trees -/

namespace Html

mutual

/-- The names of the end tags that a tree writes, in the order of its text. -/
def endTags : Html → List String
  | .element tag _ children => endTagsOf children ++ [tag]
  | .block _ tag _ children => endTagsOf children ++ [tag]
  | .row children => endTagsOf children
  | _ => []

/-- The names of the end tags that some trees write. -/
def endTagsOf : List Html → List String
  | [] => []
  | child :: others => child.endTags ++ endTagsOf others

end

mutual

/-- A tree in which no literal holds a left angle bracket and no verbatim text holds an
end tag. -/
def Guarded : Html → Prop
  | .text pieces => pieces.all Piece.isPlain = true
  | .verbatim content => Closes content.toList []
  | .element tag attributes children =>
      isTagName tag = true ∧ attributes.all Attribute.isPlain = true ∧ AllGuarded children
  | .void tag attributes =>
      isTagName tag = true ∧ attributes.all Attribute.isPlain = true
  | .block _ tag attributes children =>
      isTagName tag = true ∧ attributes.all Attribute.isPlain = true ∧ AllGuarded children
  | .row children => AllGuarded children

def AllGuarded : List Html → Prop
  | [] => True
  | child :: others => child.Guarded ∧ AllGuarded others

end

theorem endTagsOf_append (trees others : List Html) :
    endTagsOf (trees ++ others) = endTagsOf trees ++ endTagsOf others := by
  induction trees with
  | nil => rfl
  | cons tree rest inductionHypothesis =>
      simp only [List.cons_append, endTagsOf, inductionHypothesis, List.append_assoc]

theorem mem_endTagsOf {trees : List Html} {tag : String} :
    tag ∈ endTagsOf trees ↔ ∃ tree ∈ trees, tag ∈ tree.endTags := by
  induction trees with
  | nil => simp [endTagsOf]
  | cons tree rest inductionHypothesis =>
      simp [endTagsOf, inductionHypothesis]

theorem allGuarded_iff (trees : List Html) :
    AllGuarded trees ↔ ∀ tree ∈ trees, tree.Guarded := by
  induction trees with
  | nil => simp [AllGuarded]
  | cons tree rest inductionHypothesis =>
      simp [AllGuarded, inductionHypothesis]

theorem allGuarded_append (trees others : List Html) :
    AllGuarded (trees ++ others) ↔ AllGuarded trees ∧ AllGuarded others := by
  simp only [allGuarded_iff, List.mem_append, or_imp, forall_and]

end Html

/-! ## The text of a guarded tree -/

theorem closes_indentation (level : Nat) : Closes (indentation level).toList [] := by
  refine closes_of_not_mem fun member => ?_
  rw [indentation, String.toList_ofList] at member
  exact absurd (List.eq_of_mem_replicate member) (by decide)

theorem closes_newline : Closes "\n".toList [] :=
  closes_of_not_mem (by decide)

theorem Closes.endTag {text : List Char} {tag : String} {tags : List String}
    (closes : Closes text (tags.map (· ++ ">"))) (isName : isTagName tag = true) :
    Closes (text ++ (Markup.endTag tag).toList) ((tags ++ [tag]).map (· ++ ">")) := by
  rw [List.map_append]
  exact closes.append (closes_endTag isName)

theorem closes_startTag_of_isPlain {tag : String} {attributes : List Attribute}
    (isName : isTagName tag = true) (plain : attributes.all Attribute.isPlain = true) :
    Closes (startTag tag attributes).toList [] :=
  closes_startTag isName fun written member =>
    less_not_mem_attribute (List.all_eq_true.mp plain written member)

mutual

/-- The text of a guarded tree holds the end tags of the tree, whatever text follows. -/
theorem closes_renderAt (level : Nat) :
    ∀ tree : Html, tree.Guarded →
      Closes (tree.renderAt level).toList (tree.endTags.map (· ++ ">"))
  | .text pieces, guarded => closes_of_not_mem (less_not_mem_renderPieces guarded)
  | .verbatim content, guarded => guarded
  | .element tag attributes children, guarded => by
      rw [Html.renderAt, String.toList_append, String.toList_append, Html.endTags]
      exact Closes.endTag
        ((closes_startTag_of_isPlain guarded.1 guarded.2.1).append
          (closes_renderInline level children guarded.2.2)) guarded.1
  | .void tag attributes, guarded => closes_startTag_of_isPlain guarded.1 guarded.2
  | .block step tag attributes children, guarded => by
      rw [Html.renderAt, String.toList_append, String.toList_append, String.toList_append,
        String.toList_append, Html.endTags]
      have opening := (closes_startTag_of_isPlain guarded.1 guarded.2.1).append closes_newline
      have inside := opening.append (closes_renderLines (level + step) children guarded.2.2)
      exact Closes.endTag (inside.append_nothing (closes_indentation level)) guarded.1
  | .row children, guarded => closes_renderInline level children guarded

theorem closes_renderInline (level : Nat) :
    ∀ trees : List Html, Html.AllGuarded trees →
      Closes (Html.renderInline level trees).toList ((Html.endTagsOf trees).map (· ++ ">"))
  | [], _ => closes_nil
  | child :: others, guarded => by
      rw [Html.renderInline, String.toList_append, Html.endTagsOf, List.map_append]
      exact (closes_renderAt level child guarded.1).append
        (closes_renderInline level others guarded.2)

theorem closes_renderLines (level : Nat) :
    ∀ trees : List Html, Html.AllGuarded trees →
      Closes (Html.renderLines level trees).toList ((Html.endTagsOf trees).map (· ++ ">"))
  | [], _ => closes_nil
  | child :: others, guarded => by
      rw [Html.renderLines, String.toList_append, String.toList_append, String.toList_append,
        Html.endTagsOf, List.map_append]
      have line := (closes_indentation level).append (closes_renderAt level child guarded.1)
      exact (line.append_nothing closes_newline).append
        (closes_renderLines level others guarded.2)

end

end StaticSite.Markup
