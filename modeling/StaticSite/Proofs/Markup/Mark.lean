import StaticSite.Markup.Html
import StaticSite.Proofs.Text.Entity

/-!
Contract: the marks that give markup its structure.

Owns:
- marks, which are angle brackets and double quotes, and those of a text in order;
- the law that the marks in the text of a tree are those of its tags, its literals and its verbatim
  text, and that none comes from a value.

Does not own: trees that come from templates (see `StaticSite.Proofs.Markup.Alike`).
-/

namespace StaticSite.Markup

/-! ## Marks in texts -/

/-- Whether a character opens or closes a tag or a value of an attribute. -/
def isMark (character : Char) : Bool :=
  character == '<' || character == '>' || character == '"'

/-- The marks in a text, in order. -/
def marksIn (text : String) : List Char :=
  text.toList.filter isMark

theorem marksIn_append (first second : String) :
    marksIn (first ++ second) = marksIn first ++ marksIn second := by
  rw [marksIn, String.toList_append, List.filter_append]
  rfl

theorem marksIn_join (texts : List String) :
    marksIn (String.join texts) = texts.flatMap marksIn := by
  rw [marksIn, String.toList_join, List.filter_flatMap]
  rfl

/-- A text without angle brackets and double quotes has no marks. -/
theorem marksIn_eq_nil {text : String}
    (plain : ∀ character ∈ text.toList, character ≠ '<' ∧ character ≠ '>' ∧ character ≠ '"') :
    marksIn text = [] := by
  refine List.filter_eq_nil_iff.mpr fun character member => ?_
  obtain ⟨notLess, notGreater, notQuote⟩ := plain character member
  simp [isMark, notLess, notGreater, notQuote]

theorem marksIn_escapeContent (value : String) : marksIn (Text.escapeContent value) = [] :=
  marksIn_eq_nil fun _ => Text.mem_escapeContent

theorem marksIn_escape (value : String) : marksIn (Text.escape value) = [] :=
  marksIn_eq_nil fun _ => Text.mem_escape

theorem marksIn_indentation (level : Nat) : marksIn (indentation level) = [] := by
  refine marksIn_eq_nil fun character member => ?_
  rw [indentation, String.toList_ofList] at member
  rw [List.eq_of_mem_replicate member]
  decide

theorem marksIn_newline : marksIn "\n" = [] := by
  decide

/-! ## Marks of trees -/

/-- The marks of a piece: values have none. -/
def Piece.marks : Piece → List Char
  | .literal text => marksIn text
  | _ => []

theorem marksIn_renderPieces (pieces : List Piece) :
    marksIn (renderPieces pieces) = pieces.flatMap Piece.marks := by
  have samePiece : (fun piece : Piece => marksIn piece.render) = Piece.marks := by
    funext piece
    cases piece with
    | literal text => rfl
    | content value => exact marksIn_escapeContent value
    | anywhere value => exact marksIn_escape value
  rw [renderPieces, marksIn_join, List.flatMap_map, samePiece]

def Attribute.marks : Attribute → List Char
  | .valued name pieces =>
      marksIn (" " ++ name ++ "=\"") ++ pieces.flatMap Piece.marks ++ ['"']
  | .bare name => marksIn (" " ++ name)

theorem marksIn_attribute (written : Attribute) :
    marksIn written.render = written.marks := by
  cases written with
  | bare name => rfl
  | valued name pieces =>
      rw [Attribute.render, marksIn_append, marksIn_append, marksIn_renderPieces]
      rfl

def tagMarks (tag : String) (attributes : List Attribute) : List Char :=
  marksIn ("<" ++ tag) ++ attributes.flatMap Attribute.marks ++ ['>']

theorem marksIn_startTag (tag : String) (attributes : List Attribute) :
    marksIn (startTag tag attributes) = tagMarks tag attributes := by
  rw [startTag, marksIn_append, marksIn_append, marksIn_join, List.flatMap_map,
    funext marksIn_attribute]
  rfl

namespace Html

mutual

def marks : Html → List Char
  | .text pieces => pieces.flatMap Piece.marks
  | .verbatim content => marksIn content
  | .element tag attributes children =>
      tagMarks tag attributes ++ marksOf children ++ marksIn (endTag tag)
  | .void tag attributes => tagMarks tag attributes
  | .block _ tag attributes children =>
      tagMarks tag attributes ++ marksOf children ++ marksIn (endTag tag)
  | .row children => marksOf children

/-- The marks of some trees, one after the other. -/
def marksOf : List Html → List Char
  | [] => []
  | child :: others => child.marks ++ marksOf others

end

theorem marksOf_eq_flatMap (trees : List Html) : marksOf trees = trees.flatMap marks := by
  induction trees with
  | nil => rfl
  | cons tree others inductionHypothesis =>
      rw [marksOf, inductionHypothesis, List.flatMap_cons]

theorem marksOf_singleton (tree : Html) : marksOf [tree] = tree.marks := by
  rw [marksOf, marksOf, List.append_nil]

theorem marksOf_append (trees others : List Html) :
    marksOf (trees ++ others) = marksOf trees ++ marksOf others := by
  rw [marksOf_eq_flatMap, marksOf_eq_flatMap, marksOf_eq_flatMap, List.flatMap_append]

mutual

theorem marksIn_renderAt :
    ∀ (tree : Html) (level : Nat), marksIn (tree.renderAt level) = tree.marks
  | .text pieces, _ => marksIn_renderPieces pieces
  | .verbatim _, _ => rfl
  | .element tag attributes children, level => by
      rw [renderAt, marksIn_append, marksIn_append, marksIn_startTag,
        marksIn_renderInline children level, marks]
  | .void tag attributes, _ => marksIn_startTag tag attributes
  | .block step tag attributes children, level => by
      rw [renderAt, marksIn_append, marksIn_append, marksIn_append, marksIn_append,
        marksIn_startTag, marksIn_newline, marksIn_renderLines children (level + step),
        marksIn_indentation, List.append_nil, List.append_nil, marks]
  | .row children, level => marksIn_renderInline children level

theorem marksIn_renderInline :
    ∀ (trees : List Html) (level : Nat), marksIn (renderInline level trees) = marksOf trees
  | [], _ => rfl
  | child :: others, level => by
      rw [renderInline, marksIn_append, marksIn_renderAt child level,
        marksIn_renderInline others level, marksOf]

theorem marksIn_renderLines :
    ∀ (trees : List Html) (level : Nat), marksIn (renderLines level trees) = marksOf trees
  | [], _ => rfl
  | child :: others, level => by
      rw [renderLines, marksIn_append, marksIn_append, marksIn_append,
        marksIn_indentation, marksIn_renderAt child level, marksIn_newline,
        marksIn_renderLines others level, List.nil_append, List.append_nil, marksOf]

end

end Html

end StaticSite.Markup
