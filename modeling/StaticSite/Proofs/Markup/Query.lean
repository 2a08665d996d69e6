import StaticSite.Markup.Template
import StaticSite.Proofs.Markup.StartTag
import StaticSite.Proofs.Text.Split

/-!
Contract: the elements of a tree that have a class, and the templates that they come from.

Owns:
- the classes of a start tag, and the elements of a tree with a class, in order;
- whether the elements of a template have a class, where that does not depend on values;
- the law that a template without what stands around the elements with a class still gives them.

Does not own: the attributes and the content of these elements.
-/

namespace StaticSite.Markup

/-! ## Elements with a class -/

def listsClass (name : String) (held : String × Option String) : Bool :=
  held.1 == "class" && held.2.any fun classes => (Text.splitAt ' ' classes).contains name

def StartTag.hasClass (tag : StartTag) (name : String) : Bool :=
  tag.attributes.any (listsClass name)

theorem listsClass_of_ne {key name : String} {pieces : List Piece}
    (folded : isFoldedName key = true) (differs : key ≠ "class") :
    (Attribute.valued key pieces).read.any (listsClass name) = false := by
  rw [Attribute.read, foldedName_of_isFoldedName folded, List.any_cons, listsClass,
    beq_eq_false_iff_ne.mpr differs]
  rfl

namespace Html

mutual

/-- The elements of a tree, each ahead of those inside it. -/
def elements : Html → List Html
  | .element tag attributes children => .element tag attributes children :: elementsOf children
  | .void tag attributes => [.void tag attributes]
  | .block step tag attributes children =>
      .block step tag attributes children :: elementsOf children
  | .row children => elementsOf children
  | _ => []

def elementsOf : List Html → List Html
  | [] => []
  | child :: others => child.elements ++ elementsOf others

end

def opening : Html → Opening
  | .element tag attributes _ => ⟨tag, attributes⟩
  | .void tag attributes => ⟨tag, attributes⟩
  | .block _ tag attributes _ => ⟨tag, attributes⟩
  | _ => ⟨"", []⟩

/-- The start tag of an element as it is read. -/
def readTag (tree : Html) : StartTag :=
  tree.opening.read

mutual

theorem openings_eq : ∀ tree : Html, tree.openings = tree.elements.map opening
  | .element tag attributes children => by
      rw [openings, elements, List.map_cons, openingsOf_eq children, opening]
  | .void tag attributes => rfl
  | .block step tag attributes children => by
      rw [openings, elements, List.map_cons, openingsOf_eq children, opening]
  | .row children => by rw [openings, elements, openingsOf_eq children]
  | .text pieces => rfl
  | .verbatim content => rfl

theorem openingsOf_eq : ∀ trees : List Html, openingsOf trees = (elementsOf trees).map opening
  | [] => rfl
  | child :: others => by
      rw [openingsOf, elementsOf, List.map_append, openings_eq child, openingsOf_eq others]

end

/-- The elements of some trees that have a class, in order. -/
def withClass (name : String) (trees : List Html) : List Html :=
  (elementsOf trees).filter fun tree => tree.readTag.hasClass name

/-- In a text whose start tags are those of a tree, the tags with a class are those of the elements
with the class. -/
theorem filter_startTags {text : String} {tree : Html}
    (isText : startTags text = tree.openings.map Opening.read) (name : String) :
    (startTags text).filter (·.hasClass name) = (withClass name [tree]).map readTag := by
  rw [isText, openings_eq, List.map_map, List.filter_map, withClass, elementsOf, elementsOf,
    List.append_nil]
  rfl

theorem elementsOf_append (trees others : List Html) :
    elementsOf (trees ++ others) = elementsOf trees ++ elementsOf others := by
  induction trees with
  | nil => rfl
  | cons tree rest inductionHypothesis =>
      rw [List.cons_append, elementsOf, elementsOf, inductionHypothesis, List.append_assoc]

variable (name : String)

theorem withClass_append (trees others : List Html) :
    withClass name (trees ++ others) = withClass name trees ++ withClass name others := by
  rw [withClass, elementsOf_append, List.filter_append, withClass, withClass]

theorem withClass_cons (tree : Html) (others : List Html) :
    withClass name (tree :: others) = withClass name [tree] ++ withClass name others :=
  withClass_append name [tree] others

theorem withClass_row (children : List Html) :
    withClass name [.row children] = withClass name children := by
  rw [withClass, withClass, elementsOf, elementsOf, elements, List.append_nil]

/-- What an element without the class adds is what is inside it. -/
theorem withClass_of_lacks {tree : Html} {inside : List Html}
    (isElement : tree.elements = tree :: elementsOf inside)
    (lacks : tree.readTag.hasClass name = false) :
    withClass name [tree] = withClass name inside := by
  simp only [withClass, elementsOf, List.append_nil, isElement, List.filter_cons, lacks,
    Bool.false_eq_true, if_false]

/-- An element with the class and no such elements inside is the only one. -/
theorem withClass_of_has {tree : Html} {inside : List Html}
    (isElement : tree.elements = tree :: elementsOf inside)
    (has : tree.readTag.hasClass name = true) (alone : withClass name inside = []) :
    withClass name [tree] = [tree] := by
  rw [withClass] at alone
  simp only [withClass, elementsOf, List.append_nil, isElement, List.filter_cons, has, if_true,
    alone]

theorem withClass_flatMap {Item : Type} (items : List Item) (treesOf : Item → List Html) :
    withClass name (items.flatMap treesOf) =
      items.flatMap fun item => withClass name (treesOf item) := by
  induction items with
  | nil => rfl
  | cons item others inductionHypothesis =>
      rw [List.flatMap_cons, withClass_append, inductionHypothesis, List.flatMap_cons]

end Html

/-! ## Classes that values do not change -/

/-- Whether a text is one word and holds no entity. -/
def isWord (text : String) : Bool :=
  !text.toByteArray.data.toList.contains 32 && !text.toByteArray.data.toList.contains 38

/-- Whether a literal text adds further words to others, and the given one not among them. -/
def addsOthers (name text : String) : Bool :=
  match text.toList with
  | ' ' :: words => !(Text.pieces ' ' words).contains name.toList && !words.contains '&'
  | _ => false

/-- Whether a part adds at most further words, and the given one not among them. -/
def Part.addsOthers (name : String) : Part → Bool
  | .present _ [.literal text] => Markup.addsOthers name text
  | _ => false

/-- Whether a class is listed in the value of an attribute, where that does not depend on values:
the value begins with one word, and further words may follow. -/
def partsListClass? (name : String) : List Part → Option Bool
  | .literal word :: others =>
      if isWord word && others.all (Part.addsOthers name) then some (word == name) else none
  | _ => none

def AttributeTemplate.isBare : AttributeTemplate → Bool
  | .bare _ => true
  | _ => false

/-- Whether an attribute lists a class, where that does not depend on values. -/
def AttributeTemplate.listsClass? (name : String) : AttributeTemplate → Option Bool
  | .valued key parts =>
      if key = "class" then partsListClass? name parts
      else if isFoldedName key then some false
      else none
  | .bare _ => some false
  | .present _ attributes => if attributes.all isBare then some false else none
  | .absent _ attributes => if attributes.all isBare then some false else none

theorem literal_of_addsOthers {name : String} {part : Part}
    (adds : part.addsOthers name = true) (scopes : Scopes) :
    ∀ piece ∈ part.fill scopes, ∃ text, piece = .literal text ∧ addsOthers name text = true := by
  unfold Part.addsOthers at adds
  split at adds
  · rename_i list text
    intro piece member
    obtain ⟨entered, _, isPiece⟩ := List.mem_flatMap.mp member
    exact ⟨text, List.mem_singleton.mp isPiece, adds⟩
  · cases adds

theorem literals_of_addsOthers {name : String} {parts : List Part}
    (add : parts.all (Part.addsOthers name) = true) (scopes : Scopes) :
    ∀ piece ∈ fillParts scopes parts, ∃ text, piece = .literal text ∧
      addsOthers name text = true := by
  induction parts with
  | nil => exact nofun
  | cons part others inductionHypothesis =>
      obtain ⟨adds, addLater⟩ := Bool.and_eq_true_iff.mp add
      rw [fillParts]
      exact List.forall_mem_append.mpr ⟨literal_of_addsOthers adds scopes,
        inductionHypothesis addLater⟩

theorem exists_of_addsOthers {name text : String} (adds : addsOthers name text = true) :
    '&' ∉ text.toList ∧
      ∃ words, text.toList = ' ' :: words ∧ name.toList ∉ Text.pieces ' ' words := by
  unfold addsOthers at adds
  split at adds
  · rename_i words isText
    simp only [Bool.and_eq_true, Bool.not_eq_true', List.contains_eq_mem,
      decide_eq_false_iff_not] at adds
    refine ⟨?_, words, isText, adds.1⟩
    rw [isText]
    exact List.not_mem_cons_of_ne_of_not_mem (by decide) adds.2
  · cases adds

theorem not_mem_of_isWord {word : String} (isOne : isWord word = true) :
    ' ' ∉ word.toList ∧ '&' ∉ word.toList := by
  obtain ⟨noBlank, noEntity⟩ := Bool.and_eq_true_iff.mp isOne
  exact ⟨not_mem_of_not_mem_bytes noBlank (by decide),
    not_mem_of_not_mem_bytes noEntity (by decide)⟩

/-- Where it does not depend on values, whether a class is listed, it is so for all values. -/
theorem contains_valueOf? {name : String} {parts : List Part} {verdict : Bool}
    (settled : partsListClass? name parts = some verdict) (scopes : Scopes) :
    ∃ classes, valueOf? (fillParts scopes parts) = some classes ∧
      (Text.splitAt ' ' classes).contains name = verdict := by
  unfold partsListClass? at settled
  split at settled
  · rename_i word others
    split at settled
    · rename_i plain
      obtain ⟨isOne, add⟩ := Bool.and_eq_true_iff.mp plain
      obtain ⟨noBlank, noEntity⟩ := not_mem_of_isWord isOne
      have literals := literals_of_addsOthers add scopes
      have isValue : valueOf? (.literal word :: fillParts scopes others) =
          some (String.ofList (word.toList ++
            ((fillParts scopes others).map Piece.meaning).flatten)) := by
        rw [valueOf?_eq, List.flatMap_cons, Piece.meaning, ← List.flatMap_def]
        intro literal member
        rcases List.mem_cons.mp member with same | later
        · rw [Piece.literal.inj same]
          exact noEntity
        · obtain ⟨other, same, adds⟩ := literals _ later
          rw [Piece.literal.inj same]
          exact (exists_of_addsOthers adds).1
      have further : ∀ chunk ∈ (fillParts scopes others).map Piece.meaning,
          ∃ words, chunk = ' ' :: words ∧ name.toList ∉ Text.pieces ' ' words := by
        refine List.forall_mem_map.mpr fun piece member => ?_
        obtain ⟨other, rfl, adds⟩ := literals piece member
        exact (exists_of_addsOthers adds).2
      refine ⟨_, isValue, ?_⟩
      rw [← Option.some.inj settled, Bool.eq_iff_iff, Text.contains_splitAt_iff,
        String.toList_ofList, Text.mem_pieces_append_iff further, ← Text.contains_splitAt_iff,
        Text.splitAt_of_not_mem noBlank, List.contains_iff_mem, List.mem_singleton, beq_iff_eq]
      exact eq_comm
    · cases settled
  · cases settled

/-- Attributes without values hold nothing, in whatever scopes they are filled. -/
theorem read_bareAttributes {attributes : List AttributeTemplate}
    (bare : attributes.all AttributeTemplate.isBare = true) (scopes : Scopes) :
    (fillAttributes scopes attributes).flatMap Attribute.read = [] := by
  induction attributes with
  | nil => rfl
  | cons first others inductionHypothesis =>
      obtain ⟨isBare, bareLater⟩ := Bool.and_eq_true_iff.mp bare
      cases first with
      | bare key => exact inductionHypothesis bareLater
      | _ => cases isBare

/-- Where it does not depend on values, whether an attribute lists a class, it is so for all
values. -/
theorem any_read_fill {name : String} {template : AttributeTemplate} {verdict : Bool}
    (settled : template.listsClass? name = some verdict) (scopes : Scopes) :
    ((template.fill scopes).flatMap Attribute.read).any (listsClass name) = verdict := by
  cases template with
  | valued key parts =>
      rw [AttributeTemplate.fill, List.flatMap_singleton]
      rw [AttributeTemplate.listsClass?] at settled
      split at settled
      · rename_i isClass
        obtain ⟨classes, isValue, found⟩ := contains_valueOf? settled scopes
        have folded : foldedName "class".toList = "class" := by decide
        rw [isClass, Attribute.read, folded, isValue, List.any_cons, List.any_nil, Bool.or_false]
        exact found
      · split at settled
        · rename_i notClass folded
          rw [listsClass_of_ne folded notClass]
          exact Option.some.inj settled
        · cases settled
  | bare key => exact Option.some.inj settled
  | present list attributes =>
      rw [AttributeTemplate.listsClass?] at settled
      split at settled
      · rename_i bare
        have nothing : ((scopes.enter (scopes.lookup list)).flatMap fun entered =>
            (fillAttributes entered attributes).flatMap Attribute.read) = [] :=
          List.flatMap_eq_nil_iff.mpr fun entered _ => read_bareAttributes bare entered
        rw [AttributeTemplate.fill, List.flatMap_assoc, nothing]
        exact Option.some.inj settled
      · cases settled
  | absent list attributes =>
      rw [AttributeTemplate.listsClass?] at settled
      split at settled
      · rename_i bare
        rw [AttributeTemplate.fill]
        split
        · exact Option.some.inj settled
        · rw [read_bareAttributes bare]
          exact Option.some.inj settled
      · cases settled

/-- Whether an element with some attributes does not have a class, whatever the values. -/
def lacksClass (name : String) (attributes : List AttributeTemplate) : Bool :=
  attributes.all fun template => template.listsClass? name == some false

/-- Whether an element with some attributes has a class, whatever the values. -/
def givesClass (name : String) (attributes : List AttributeTemplate) : Bool :=
  attributes.any fun template => template.listsClass? name == some true

theorem hasClass_fill (name tag : String) (attributes : List AttributeTemplate)
    (scopes : Scopes) :
    (Opening.read ⟨tag, fillAttributes scopes attributes⟩).hasClass name =
      attributes.any fun template =>
        ((template.fill scopes).flatMap Attribute.read).any (listsClass name) := by
  rw [StartTag.hasClass, Opening.read]
  induction attributes with
  | nil => rfl
  | cons first others inductionHypothesis =>
      rw [fillAttributes, List.flatMap_append, List.any_append, inductionHypothesis, List.any_cons]

section

variable {name : String} {attributes : List AttributeTemplate}

theorem hasClass_of_lacksClass (lacks : lacksClass name attributes = true) (tag : String)
    (scopes : Scopes) :
    (Opening.read ⟨tag, fillAttributes scopes attributes⟩).hasClass name = false := by
  rw [hasClass_fill, List.any_eq_false]
  intro template member
  rw [any_read_fill (beq_iff_eq.mp (List.all_eq_true.mp lacks template member)) scopes]
  exact Bool.false_ne_true

theorem hasClass_of_givesClass (gives : givesClass name attributes = true) (tag : String)
    (scopes : Scopes) :
    (Opening.read ⟨tag, fillAttributes scopes attributes⟩).hasClass name = true := by
  obtain ⟨template, member, settled⟩ := List.any_eq_true.mp gives
  rw [hasClass_fill, List.any_eq_true]
  exact ⟨template, member, any_read_fill (beq_iff_eq.mp settled) scopes⟩

end

/-! ## Templates of the elements with a class -/

/-- What is repeated for each item of a list, if it is anything. -/
def repeated (list : String) (children : List Template) : List Template :=
  if children.isEmpty then [] else [.inline list children]

mutual

/-- A template without what stands around the elements that may have a class. -/
def Template.around (name : String) : Template → List Template
  | .text _ => []
  | .element tag attributes children =>
      if lacksClass name attributes then aroundAll name children
      else [.element tag attributes children]
  | .void tag attributes => if lacksClass name attributes then [] else [.void tag attributes]
  | .block tag attributes children =>
      if lacksClass name attributes then aroundAll name children
      else [.block tag attributes children]
  | .row children => aroundAll name children
  | .inline list children => repeated list (aroundAll name children)
  | .perItem list children => repeated list (aroundAll name children)

/-- Templates without what stands around the elements that may have a class. -/
def aroundAll (name : String) : List Template → List Template
  | [] => []
  | child :: others => child.around name ++ aroundAll name others

end

theorem fillInline_append (scopes : Scopes) (templates others : List Template) :
    fillInline scopes (templates ++ others) =
      fillInline scopes templates ++ fillInline scopes others := by
  induction templates with
  | nil => rfl
  | cons first rest inductionHypothesis =>
      rw [List.cons_append, fillInline, fillInline, inductionHypothesis, List.append_assoc]

section

open Html

variable (name : String)

/-- A template on a line of its own gives the same elements as on one line with others. -/
theorem withClass_line {child : Template} {others : List Template} {scopes : Scopes}
    (isLine : fillLines scopes (child :: others) =
      .row (child.fill scopes) :: fillLines scopes others)
    (later : withClass name (fillLines scopes others) = withClass name (fillInline scopes others)) :
    withClass name (fillLines scopes (child :: others)) =
      withClass name (fillInline scopes (child :: others)) := by
  rw [isLine, fillInline, withClass_cons, withClass_row, withClass_append, later]

mutual

/-- A template on lines before others gives the same elements as on one line with them. -/
theorem withClass_fillLines_cons :
    ∀ (child : Template) (others : List Template) (scopes : Scopes),
      withClass name (fillLines scopes others) = withClass name (fillInline scopes others) →
        withClass name (fillLines scopes (child :: others)) =
          withClass name (fillInline scopes (child :: others))
  -- What is filled for each item is not on one line, but every time on lines of its own.
  | .perItem list children, others, scopes, later => by
      rw [fillLines, fillInline, Template.fill, withClass_append, withClass_append,
        withClass_flatMap, withClass_flatMap, later]
      simp only [withClass_fillLines children]
  | .text _, _, _, later => withClass_line name rfl later
  | .element _ _ _, _, _, later => withClass_line name rfl later
  | .void _ _, _, _, later => withClass_line name rfl later
  | .block _ _ _, _, _, later => withClass_line name rfl later
  | .row _, _, _, later => withClass_line name rfl later
  | .inline _ _, _, _, later => withClass_line name rfl later

theorem withClass_fillLines :
    ∀ (templates : List Template) (scopes : Scopes),
      withClass name (fillLines scopes templates) = withClass name (fillInline scopes templates)
  | [], _ => rfl
  | child :: others, scopes =>
      withClass_fillLines_cons child others scopes (withClass_fillLines others scopes)

end

/-- What is repeated gives the same elements if each time gives the same. -/
theorem withClass_repeated {children kept : List Template}
    (same : ∀ entered, withClass name (fillInline entered children) =
      withClass name (fillInline entered kept)) (list : String) (scopes : Scopes) :
    withClass name ((scopes.enter (scopes.lookup list)).flatMap fun entered =>
        fillInline entered children) =
      withClass name (fillInline scopes (repeated list kept)) := by
  rw [withClass_flatMap, repeated]
  simp only [same]
  split
  · rename_i nothing
    rw [List.isEmpty_iff.mp nothing]
    exact List.flatMap_eq_nil_iff.mpr fun _ _ => rfl
  · rw [fillInline, fillInline, List.append_nil, Template.fill, withClass_flatMap]

mutual

/-- A template without what stands around the elements with a class gives the same of them. -/
theorem withClass_fill :
    ∀ (template : Template) (scopes : Scopes),
      withClass name (template.fill scopes) =
        withClass name (fillInline scopes (template.around name))
  | .text part, scopes => rfl
  | .element tag attributes children, scopes => by
      rw [Template.around]
      split
      · rename_i lacks
        have inside : withClass name (Template.fill scopes (.element tag attributes children)) =
            withClass name (fillInline scopes children) :=
          withClass_of_lacks name rfl (hasClass_of_lacksClass lacks tag scopes)
        exact inside.trans (withClass_fillInline children scopes)
      · rw [fillInline, fillInline, List.append_nil]
  | .void tag attributes, scopes => by
      rw [Template.around]
      split
      · rename_i lacks
        exact @withClass_of_lacks name _ [] rfl (hasClass_of_lacksClass lacks tag scopes)
      · rw [fillInline, fillInline, List.append_nil]
  | .block tag attributes children, scopes => by
      rw [Template.around]
      split
      · rename_i lacks
        have inside : withClass name (Template.fill scopes (.block tag attributes children)) =
            withClass name (fillLines scopes children) :=
          withClass_of_lacks name rfl (hasClass_of_lacksClass lacks tag scopes)
        rw [inside, withClass_fillLines, withClass_fillInline children]
      · rw [fillInline, fillInline, List.append_nil]
  | .row children, scopes => withClass_fillInline children scopes
  | .inline list children, scopes =>
      withClass_repeated name (withClass_fillInline children) list scopes
  | .perItem list children, scopes =>
      withClass_repeated name (withClass_fillInline children) list scopes

theorem withClass_fillInline :
    ∀ (templates : List Template) (scopes : Scopes),
      withClass name (fillInline scopes templates) =
        withClass name (fillInline scopes (aroundAll name templates))
  | [], _ => rfl
  | child :: others, scopes => by
      rw [fillInline, aroundAll, fillInline_append, withClass_append, withClass_append,
        withClass_fill child, withClass_fillInline others]

end

/-- Whether a template is an element with a class in which no such elements are, whatever the
values. -/
def Template.isSoleElement (name : String) : Template → Bool
  | .element _ attributes children =>
      givesClass name attributes && (aroundAll name children).isEmpty
  | .void _ attributes => givesClass name attributes
  | .block _ attributes children => givesClass name attributes && (aroundAll name children).isEmpty
  | _ => false

theorem withClass_of_around_eq_nil {children : List Template}
    (nothing : (aroundAll name children).isEmpty = true) (scopes : Scopes) :
    withClass name (fillInline scopes children) = [] := by
  rw [withClass_fillInline, List.isEmpty_iff.mp nothing]
  rfl

theorem withClass_fill_of_isSoleElement {template : Template}
    (isSole : template.isSoleElement name = true) (scopes : Scopes) :
    withClass name (template.fill scopes) = template.fill scopes := by
  cases template with
  | element tag attributes children =>
      obtain ⟨gives, nothing⟩ := Bool.and_eq_true_iff.mp isSole
      exact withClass_of_has name rfl (hasClass_of_givesClass gives tag scopes)
        (withClass_of_around_eq_nil name nothing scopes)
  | void tag attributes =>
      exact @withClass_of_has name _ [] rfl (hasClass_of_givesClass isSole tag scopes) rfl
  | block tag attributes children =>
      obtain ⟨gives, nothing⟩ := Bool.and_eq_true_iff.mp isSole
      exact withClass_of_has name rfl (hasClass_of_givesClass gives tag scopes)
        ((withClass_fillLines name children scopes).trans
          (withClass_of_around_eq_nil name nothing scopes))
  | _ => cases isSole

/-- Where a template holds an element with a class once for each item of a list, these elements are
what it gives of the class. -/
theorem withClass_fill_of_repeated {template item : Template} {list : String}
    (isRepeated : template.around name = [.inline list [item]])
    (isSole : item.isSoleElement name = true) (scopes : Scopes) :
    withClass name (template.fill scopes) =
      (scopes.enter (scopes.lookup list)).flatMap item.fill := by
  rw [withClass_fill, isRepeated, fillInline, fillInline, List.append_nil, Template.fill,
    withClass_flatMap]
  simp only [fillInline, List.append_nil, withClass_fill_of_isSoleElement name isSole]

end

end StaticSite.Markup
