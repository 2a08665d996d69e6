import StaticSite.Proofs.Markup.Reader
import StaticSite.Proofs.Text.Letter

/-!
Contract: the start tags that a text of markup holds, and those of a tree.

Owns:
- the attributes that can be read back from the text of a start tag;
- trees of which every tag can be read back;
- the law that the text of such a tree holds the start tags of the tree and no others.

Does not own: which start tags a template gives (see `StaticSite.Proofs.Markup.Filling`).
-/

namespace StaticSite.Markup

/-! ## Values of attributes -/

/-- Whether a literal text holds no double quote. -/
def isUnquotedText (text : String) : Bool :=
  !text.toByteArray.data.toList.contains 34

theorem quote_not_mem_of_isUnquotedText {text : String} (unquoted : isUnquotedText text = true) :
    '"' ∉ text.toList :=
  not_mem_of_not_mem_bytes unquoted (by decide)

/-- Whether a piece may stand in double quotes. -/
def Piece.isUnquoted : Piece → Bool
  | .literal text => isUnquotedText text
  | _ => true

theorem quote_not_mem_renderPieces {pieces : List Piece}
    (unquoted : pieces.all Piece.isUnquoted = true) : '"' ∉ (renderPieces pieces).toList := by
  intro member
  obtain ⟨piece, isPiece, inText⟩ := exists_of_mem_renderPieces member
  have unquotedPiece := List.all_eq_true.mp unquoted piece isPiece
  cases piece with
  | literal text => exact quote_not_mem_of_isUnquotedText unquotedPiece inText
  | content value => exact (Text.mem_escapeContent inText).2.2 rfl
  | anywhere value => exact (Text.mem_escape inText).2.2 rfl

def Piece.meaning : Piece → List Char
  | .literal text => text.toList
  | .content value => value.toList
  | .anywhere value => value.toList

theorem decodeEntities_renderPieces {pieces : List Piece}
    (noEntity : ∀ text, Piece.literal text ∈ pieces → '&' ∉ text.toList) :
    Text.decodeEntities (renderPieces pieces).toList = pieces.flatMap Piece.meaning := by
  induction pieces with
  | nil => rfl
  | cons piece others inductionHypothesis =>
      have later := inductionHypothesis fun text member =>
        noEntity text (List.mem_cons_of_mem piece member)
      have isText : (renderPieces (piece :: others)).toList =
          piece.render.toList ++ (renderPieces others).toList := by
        simp [renderPieces, String.toList_join]
      rw [isText, List.flatMap_cons, ← later]
      cases piece with
      | literal text =>
          exact Text.decodeEntities_append_of_not_mem (noEntity text List.mem_cons_self) _
      | content value =>
          rw [Piece.render, Text.toList_escapeContent]
          exact Text.decodeEntities_flatMap Text.decodeEntities_contentEntity value.toList _
      | anywhere value =>
          rw [Piece.render, Text.toList_escape]
          exact Text.decodeEntities_flatMap Text.decodeEntities_attributeEntity value.toList _

/-- Whether an attribute has a proper name and a value that stays within its quotes. -/
def Attribute.isReadable : Attribute → Bool
  | .valued name pieces => isAttributeName name && pieces.all Piece.isUnquoted
  | .bare name => isAttributeName name

/-! ## The text of a start tag -/

def Attribute.findings : Attribute → List Finding
  | .valued name pieces => [.quoted name.toList (renderPieces pieces).toList]
  | .bare _ => []

theorem finds_attribute {tag : List Char} {place : Place} (awaits : AwaitsAttribute tag place)
    {written : Attribute} (readable : written.isReadable = true) :
    ∃ next, AwaitsAttribute tag next ∧
      Finds place written.render.toList written.findings next := by
  -- A bare attribute leaves the reader in its name, one with a value behind the closing quote.
  cases written with
  | bare name =>
      refine ⟨_, awaitsAttribute_attributeName tag name.toList, ?_⟩
      have isText : (Attribute.bare name).render.toList = ' ' :: name.toList := by
        simp [Attribute.render]
      rw [isText]
      exact finds_attributeName awaits readable
  | valued name pieces =>
      obtain ⟨isName, unquoted⟩ := Bool.and_eq_true_iff.mp readable
      refine ⟨_, awaitsAttribute_between tag, ?_⟩
      have isText : (Attribute.valued name pieces).render.toList =
          (' ' :: name.toList) ++ (['=', '"'] ++ ((renderPieces pieces).toList ++ ['"'])) := by
        simp [Attribute.render]
      have opening : Finds (.attributeName tag name.toList) ['=', '"'] []
          (.quoted tag name.toList []) := fun _ => rfl
      have value := finds_more_of_quoted tag name.toList [] (quote_not_mem_renderPieces unquoted)
      have closing : Finds (.quoted tag name.toList (renderPieces pieces).toList) ['"']
          (Attribute.valued name pieces).findings (.between tag) := fun _ => rfl
      rw [isText]
      exact (finds_attributeName awaits isName).append (opening.append (value.append closing))

theorem finds_attributes {tag : List Char} {place : Place} (awaits : AwaitsAttribute tag place)
    {attributes : List Attribute} (readable : attributes.all Attribute.isReadable = true) :
    ∃ next, AwaitsAttribute tag next ∧
      Finds place (attributes.flatMap (·.render.toList)) (attributes.flatMap Attribute.findings)
        next := by
  induction attributes generalizing place with
  | nil => exact ⟨place, awaits, finds_nil place⟩
  | cons written others inductionHypothesis =>
      obtain ⟨readableFirst, readableLater⟩ := Bool.and_eq_true_iff.mp readable
      obtain ⟨middle, awaitsMiddle, findsFirst⟩ := finds_attribute awaits readableFirst
      obtain ⟨finish, awaitsFinish, findsLater⟩ := inductionHypothesis awaitsMiddle readableLater
      exact ⟨finish, awaitsFinish, findsFirst.append findsLater⟩

/-- Whether a text is a tag name that begins with a letter. -/
def beginsTag (tag : String) : Bool :=
  isTagName tag && (tag.toList.head?.any Char.isAlpha)

/-- The start tag of an element of a tree. -/
structure Opening where
  tag : String
  attributes : List Attribute

/-- What a reader finds in a start tag: its attributes, and then its end. -/
def Opening.findings (opening : Opening) : List Finding :=
  opening.attributes.flatMap Attribute.findings ++ [.opened opening.tag.toList]

/-- In a start tag its attributes are found, and it leads to the content of its element. -/
theorem finds_startTag {tag : String} {attributes : List Attribute}
    (begins : beginsTag tag = true) (readable : attributes.all Attribute.isReadable = true) :
    Finds .text (startTag tag attributes).toList (Opening.findings ⟨tag, attributes⟩)
      (contentPlace tag.toList) := by
  obtain ⟨isName, startsWithLetter⟩ := Bool.and_eq_true_iff.mp begins
  have alphanumeric := List.all_eq_true.mp (Bool.and_eq_true_iff.mp isName).2
  have isText : (startTag tag attributes).toList =
      ['<'] ++ (tag.toList ++ (attributes.flatMap (·.render.toList) ++ ['>'])) := by
    simp [startTag, String.toList_join, List.flatMap_map]
  have opening : Finds .text ['<'] [] .opened := fun _ => rfl
  have name : Finds .opened tag.toList [] (.tagName tag.toList) := by
    cases isTag : tag.toList with
    | nil =>
        rw [isTag] at startsWithLetter
        cases startsWithLetter
    | cons first others =>
        rw [isTag] at startsWithLetter alphanumeric
        have isLetter : first.isAlpha = true := startsWithLetter
        apply Finds.cons rfl
        rw [Place.next, if_pos isLetter]
        apply finds_more_of_tagName [first]
        intro character member
        exact isAttributeCharacter_of_isAlphanum
          (alphanumeric character (List.mem_cons_of_mem first member))
  obtain ⟨finish, awaits, inside⟩ :=
    finds_attributes (awaitsAttribute_tagName tag.toList) readable
  rw [isText]
  exact opening.append (name.append (inside.append (finds_bracket awaits)))

/-! ## Trees -/

namespace Html

mutual

/-- The start tags of a tree, in the order of its text. -/
def openings : Html → List Opening
  | .element tag attributes children => ⟨tag, attributes⟩ :: openingsOf children
  | .void tag attributes => [⟨tag, attributes⟩]
  | .block _ tag attributes children => ⟨tag, attributes⟩ :: openingsOf children
  | .row children => openingsOf children
  | _ => []

def openingsOf : List Html → List Opening
  | [] => []
  | child :: others => child.openings ++ openingsOf others

end

/-- Whether a tree is code without end tags. -/
def IsCode : Html → Prop
  | .verbatim content => closesNothing content.toList = true
  | _ => False

/-- Whether a start tag can be read back. -/
def Opens (tag : String) (attributes : List Attribute) : Prop :=
  beginsTag tag = true ∧ attributes.all Attribute.isReadable = true

mutual

/-- A tree of which every tag can be read back: no value ends its attribute, no text begins a
tag, and code holds no end tag. -/
def Readable : Html → Prop
  | .text pieces => pieces.all Piece.isPlain = true
  | .verbatim content => isPlainText content = true
  | .element tag attributes children => Opens tag attributes ∧
      (tag ∈ codeTags ∧ (∀ child ∈ children, child.IsCode) ∨
        isCodeTag tag.toList = false ∧ AllReadable children)
  | .void tag attributes => Opens tag attributes ∧ isCodeTag tag.toList = false
  | .block _ tag attributes children => Opens tag attributes ∧
      (tag ∈ codeTags ∧ (∀ child ∈ children, child.IsCode) ∨
        isCodeTag tag.toList = false ∧ AllReadable children)
  | .row children => AllReadable children

def AllReadable : List Html → Prop
  | [] => True
  | child :: others => child.Readable ∧ AllReadable others

end

theorem allReadable_append (trees others : List Html) :
    AllReadable (trees ++ others) ↔ AllReadable trees ∧ AllReadable others := by
  induction trees with
  | nil => simp [AllReadable]
  | cons tree rest inductionHypothesis =>
      simp [AllReadable, inductionHypothesis, and_assoc]

theorem openingsOf_append (trees others : List Html) :
    openingsOf (trees ++ others) = openingsOf trees ++ openingsOf others := by
  induction trees with
  | nil => rfl
  | cons tree rest inductionHypothesis =>
      simp only [List.cons_append, openingsOf, inductionHypothesis, List.append_assoc]

theorem openingsOf_flatMap {Item : Type} (items : List Item) (treesOf : Item → List Html) :
    openingsOf (items.flatMap treesOf) = items.flatMap fun item => openingsOf (treesOf item) := by
  induction items with
  | nil => rfl
  | cons item others inductionHypothesis =>
      rw [List.flatMap_cons, openingsOf_append, inductionHypothesis, List.flatMap_cons]

theorem openingsOf_of_isCode {trees : List Html} (code : ∀ tree ∈ trees, tree.IsCode) :
    openingsOf trees = [] := by
  induction trees with
  | nil => rfl
  | cons tree others inductionHypothesis =>
      obtain ⟨isCode, codeLater⟩ := List.forall_mem_cons.mp code
      rw [openingsOf, inductionHypothesis codeLater]
      cases tree with
      | verbatim content => rfl
      | _ => exact isCode.elim

end Html

/-! ## The text of a tree -/

/-- What a reader finds in some start tags. -/
def openingFindings (openings : List Opening) : List Finding :=
  openings.flatMap Opening.findings

theorem openingFindings_append (openings others : List Opening) :
    openingFindings (openings ++ others) = openingFindings openings ++ openingFindings others :=
  List.flatMap_append

theorem less_not_mem_indentation (level : Nat) : '<' ∉ (indentation level).toList := by
  intro member
  rw [indentation, String.toList_ofList] at member
  exact absurd (List.eq_of_mem_replicate member) (by decide)

theorem finds_code_of_not_mem (tag : List Char) {text : List Char} (plain : '<' ∉ text) :
    Finds (.code tag []) text [] (.code tag []) :=
  finds_code tag (closesNothing_of_not_mem plain)

theorem finds_code_renderAt (tag : List Char) (level : Nat) {tree : Html} (isCode : tree.IsCode) :
    Finds (.code tag []) (tree.renderAt level).toList [] (.code tag []) := by
  cases tree with
  | verbatim content => exact finds_code tag isCode
  | _ => exact isCode.elim

theorem finds_code_renderInline (tag : List Char) (level : Nat) {trees : List Html}
    (code : ∀ tree ∈ trees, tree.IsCode) :
    Finds (.code tag []) (Html.renderInline level trees).toList [] (.code tag []) := by
  induction trees with
  | nil => exact finds_nil _
  | cons tree others inductionHypothesis =>
      obtain ⟨isCode, codeLater⟩ := List.forall_mem_cons.mp code
      rw [Html.renderInline, String.toList_append]
      exact (finds_code_renderAt tag level isCode).append (inductionHypothesis codeLater)

theorem finds_code_renderLines (tag : List Char) (level : Nat) {trees : List Html}
    (code : ∀ tree ∈ trees, tree.IsCode) :
    Finds (.code tag []) (Html.renderLines level trees).toList [] (.code tag []) := by
  induction trees with
  | nil => exact finds_nil _
  | cons tree others inductionHypothesis =>
      obtain ⟨isCode, codeLater⟩ := List.forall_mem_cons.mp code
      have blanks := finds_code_of_not_mem tag (less_not_mem_indentation level)
      have newline := finds_code_of_not_mem tag (by decide : '<' ∉ "\n".toList)
      have line := (blanks.append (finds_code_renderAt tag level isCode)).append newline
      rw [Html.renderLines, String.toList_append, String.toList_append, String.toList_append]
      exact line.append (inductionHypothesis codeLater)

theorem contentPlace_of_mem_codeTags {tag : String} (isCode : tag ∈ codeTags) :
    contentPlace tag.toList = .code tag.toList [] := by
  have allCode : ∀ name ∈ codeTags, isCodeTag name.toList = true := by decide
  rw [contentPlace, if_pos (allCode tag isCode)]

theorem contentPlace_of_not_isCodeTag {tag : List Char} (notCode : isCodeTag tag = false) :
    contentPlace tag = .text := by
  rw [contentPlace, if_neg (by simp [notCode])]

/-- An element from its start tag to its end tag, around content that keeps the reader at its
place. -/
theorem finds_around {tag : String} {attributes : List Attribute} {content : List Char}
    {openings : List Opening} (opens : Html.Opens tag attributes)
    (place : tag ∈ codeTags ∨ isCodeTag tag.toList = false)
    (inside : Finds (contentPlace tag.toList) content (openingFindings openings)
      (contentPlace tag.toList)) :
    Finds .text ((startTag tag attributes).toList ++ content ++ (endTag tag).toList)
      (openingFindings (⟨tag, attributes⟩ :: openings)) .text := by
  have opening := finds_startTag opens.1 opens.2
  have closing : Finds (contentPlace tag.toList) (endTag tag).toList [] .text := by
    rcases place with isCode | notCode
    · exact finds_codeEnd isCode
    · rw [contentPlace_of_not_isCodeTag notCode]
      exact finds_endTag (Bool.and_eq_true_iff.mp opens.1).1
  exact (opening.append inside).append_nothing closing

theorem finds_opening {tag : String} {attributes : List Attribute}
    (opens : Html.Opens tag attributes) (notCode : isCodeTag tag.toList = false) :
    Finds .text (startTag tag attributes).toList (openingFindings [⟨tag, attributes⟩]) .text := by
  have opening := finds_startTag opens.1 opens.2
  rw [contentPlace_of_not_isCodeTag notCode] at opening
  rw [openingFindings, List.flatMap_singleton]
  exact opening

/-- Start tags that are found one after the other. -/
theorem Finds.append_openings {start middle finish : Place} {first second : List Char}
    {openings others : List Opening} (findsFirst : Finds start first (openingFindings openings) middle)
    (findsSecond : Finds middle second (openingFindings others) finish) :
    Finds start (first ++ second) (openingFindings (openings ++ others)) finish := by
  rw [openingFindings_append]
  exact findsFirst.append findsSecond

mutual

/-- In the text of a readable tree the start tags of the tree are found, whatever text
follows. -/
theorem finds_renderAt (level : Nat) :
    ∀ tree : Html, tree.Readable →
      Finds .text (tree.renderAt level).toList (openingFindings tree.openings) .text
  | .text pieces, readable => finds_text (less_not_mem_renderPieces readable)
  | .verbatim content, readable => finds_text (less_not_mem_of_isPlainText readable)
  | .element tag attributes children, ⟨opens, content⟩ => by
      rw [Html.renderAt, String.toList_append, String.toList_append, Html.openings]
      rcases content with ⟨isCode, code⟩ | ⟨notCode, readable⟩
      · apply finds_around opens (Or.inl isCode)
        rw [contentPlace_of_mem_codeTags isCode, Html.openingsOf_of_isCode code]
        exact finds_code_renderInline tag.toList level code
      · apply finds_around opens (Or.inr notCode)
        rw [contentPlace_of_not_isCodeTag notCode]
        exact finds_renderInline level children readable
  | .void tag attributes, ⟨opens, notCode⟩ => finds_opening opens notCode
  | .block step tag attributes children, ⟨opens, content⟩ => by
      rw [Html.renderAt, String.toList_append, String.toList_append, String.toList_append,
        String.toList_append, List.append_assoc (startTag tag attributes).toList,
        List.append_assoc (startTag tag attributes).toList, Html.openings]
      rcases content with ⟨isCode, code⟩ | ⟨notCode, readable⟩
      · apply finds_around opens (Or.inl isCode)
        rw [contentPlace_of_mem_codeTags isCode, Html.openingsOf_of_isCode code]
        have newline := finds_code_of_not_mem tag.toList (by decide : '<' ∉ "\n".toList)
        have lines := finds_code_renderLines tag.toList (level + step) code
        have blanks := finds_code_of_not_mem tag.toList (less_not_mem_indentation level)
        exact (newline.append lines).append blanks
      · apply finds_around opens (Or.inr notCode)
        rw [contentPlace_of_not_isCodeTag notCode]
        have newline := finds_text (by decide : '<' ∉ "\n".toList)
        have lines := finds_renderLines (level + step) children readable
        exact (newline.append lines).append_nothing (finds_text (less_not_mem_indentation level))
  | .row children, readable => finds_renderInline level children readable

theorem finds_renderInline (level : Nat) :
    ∀ trees : List Html, Html.AllReadable trees →
      Finds .text (Html.renderInline level trees).toList (openingFindings (Html.openingsOf trees))
        .text
  | [], _ => finds_nil _
  | child :: others, ⟨readable, readableLater⟩ => by
      rw [Html.renderInline, String.toList_append, Html.openingsOf]
      exact (finds_renderAt level child readable).append_openings
        (finds_renderInline level others readableLater)

theorem finds_renderLines (level : Nat) :
    ∀ trees : List Html, Html.AllReadable trees →
      Finds .text (Html.renderLines level trees).toList (openingFindings (Html.openingsOf trees))
        .text
  | [], _ => finds_nil _
  | child :: others, ⟨readable, readableLater⟩ => by
      have blanks := finds_text (less_not_mem_indentation level)
      have line := blanks.append (finds_renderAt level child readable)
      have newline := finds_text (by decide : '<' ∉ "\n".toList)
      rw [Html.renderLines, String.toList_append, String.toList_append, String.toList_append,
        Html.openingsOf]
      exact (line.append_nothing newline).append_openings (finds_renderLines level others readableLater)

end

/-! ## Texts with known start tags -/

/-- Whether a text between tags holds the given start tags and ends between tags, whatever text
follows it. -/
def Holds (text : String) (openings : List Opening) : Prop :=
  Finds .text text.toList (openingFindings openings) .text

theorem Holds.append {first second : String} {openings others : List Opening}
    (holds : Holds first openings) (holdsOthers : Holds second others) :
    Holds (first ++ second) (openings ++ others) := by
  rw [Holds, String.toList_append]
  exact Finds.append_openings holds holdsOthers

theorem Holds.append_nothing {first second : String} {openings : List Opening}
    (holds : Holds first openings) (nothing : Holds second []) : Holds (first ++ second) openings := by
  rw [Holds, String.toList_append]
  exact Finds.append_nothing holds nothing

theorem holds_of_not_mem {text : String} (plain : '<' ∉ text.toList) : Holds text [] :=
  finds_text plain

theorem holds_newline : Holds "\n" [] :=
  holds_of_not_mem (by decide)

theorem holds_startTag {tag : String} {attributes : List Attribute}
    (opens : Html.Opens tag attributes) (notCode : isCodeTag tag.toList = false) :
    Holds (startTag tag attributes) [⟨tag, attributes⟩] :=
  finds_opening opens notCode

theorem holds_renderAt {tree : Html} (readable : tree.Readable) (level : Nat) :
    Holds (tree.renderAt level) tree.openings :=
  finds_renderAt level tree readable

theorem holds_renderLines {trees : List Html} (readable : Html.AllReadable trees) (level : Nat) :
    Holds (Html.renderLines level trees) (Html.openingsOf trees) :=
  finds_renderLines level trees readable

/-! ## Start tags as they are read -/

/-- A name with its letters in lower case. -/
def foldedName (name : List Char) : String :=
  String.ofList (foldLetters name)

/-- Whether a literal name holds no capital letter. -/
def isFoldedName (name : String) : Bool :=
  name.toByteArray.data.toList.all fun byte => byte < 65 || 90 < byte

theorem foldedName_of_isFoldedName {name : String} (folded : isFoldedName name = true) :
    foldedName name.toList = name := by
  have tested : ∀ code < 128, (Char.ofNat code).isUpper = true →
      (String.utf8EncodeChar (Char.ofNat code)).all (fun byte => byte < 65 || 90 < byte) = false := by
    decide +kernel
  have noCapital : ∀ character ∈ name.toList, character.toLower = character := by
    intro character member
    refine toLower_of_not_isUpper fun isCapital => ?_
    have alphanumeric : character.isAlphanum = true := by
      change (character.isUpper || character.isLower || character.isDigit) = true
      rw [isCapital, Bool.true_or, Bool.true_or]
    have codes := Text.toNat_of_isAlphanum alphanumeric
    have isByte := Text.of_toNat_lt (fun character => character.isUpper = true →
      (String.utf8EncodeChar character).all (fun byte => byte < 65 || 90 < byte) = false)
      tested (by omega) isCapital
    rw [isFoldedName, bytes_eq_flatMap, List.all_flatMap] at folded
    rw [List.all_eq_true.mp folded character member] at isByte
    cases isByte
  rw [foldedName, foldLetters, List.map_congr_left noCapital, List.map_id', String.ofList_toList]

/-- What the written value of an attribute means, if all its entities are those of escaped
text. -/
def meaning? (value : List Char) : Option String :=
  if Text.hasKnownEntities value then some (String.ofList (Text.decodeEntities value)) else none

/-- A start tag as it is read. The names of the tag and of its attributes are in lower case, and
the values are those that are meant; a value without double quotes or with unknown entities is not
read. -/
structure StartTag where
  name : String
  attributes : List (String × Option String)
  deriving DecidableEq

/-- The start tags among findings, behind some attributes of the first of them. -/
def gather (attributes : List (String × Option String)) : List Finding → List StartTag
  | [] => []
  | .quoted name value :: rest =>
      gather (attributes ++ [(foldedName name, meaning? value)]) rest
  | .unquoted name :: rest => gather (attributes ++ [(foldedName name, none)]) rest
  | .opened tag :: rest => ⟨foldedName tag, attributes⟩ :: gather [] rest

def startTags (document : String) : List StartTag :=
  gather [] (findingsFrom .text document.toList)

/-- The value that the pieces of an attribute mean, if it is read. -/
def valueOf? (pieces : List Piece) : Option String :=
  meaning? (renderPieces pieces).toList

/-- An attribute as it is read; one without a value is none that could hold anything. -/
def Attribute.read : Attribute → List (String × Option String)
  | .valued name pieces =>
      [(foldedName name.toList, valueOf? pieces)]
  | .bare _ => []

/-- A start tag of a tree as it is read. -/
def Opening.read (opening : Opening) : StartTag :=
  ⟨foldedName opening.tag.toList, opening.attributes.flatMap Attribute.read⟩

theorem filter_read_eq_nil {test : StartTag → Bool} {openings : List Opening}
    (fails : ∀ opening ∈ openings, test opening.read = false) :
    (openings.map Opening.read).filter test = [] := by
  refine List.filter_eq_nil_iff.mpr fun tag member => ?_
  obtain ⟨opening, isOpening, rfl⟩ := List.mem_map.mp member
  rw [fails opening isOpening]
  exact Bool.false_ne_true

theorem gather_attributes (seen : List (String × Option String)) (attributes : List Attribute)
    (rest : List Finding) :
    gather seen (attributes.flatMap Attribute.findings ++ rest) =
      gather (seen ++ attributes.flatMap Attribute.read) rest := by
  induction attributes generalizing seen with
  | nil => rw [List.flatMap_nil, List.flatMap_nil, List.nil_append, List.append_nil]
  | cons written others inductionHypothesis =>
      cases written with
      | bare name => exact inductionHypothesis seen
      | valued name pieces =>
          rw [List.flatMap_cons, List.flatMap_cons, ← List.append_assoc seen]
          exact inductionHypothesis _

theorem gather_openingFindings (openings : List Opening) (rest : List Finding) :
    gather [] (openingFindings openings ++ rest) = openings.map Opening.read ++ gather [] rest := by
  induction openings with
  | nil => rfl
  | cons opening others inductionHypothesis =>
      rw [openingFindings, List.flatMap_cons, Opening.findings, List.append_assoc,
        List.append_assoc, gather_attributes, List.nil_append, List.singleton_append, gather,
        List.map_cons, List.cons_append, ← inductionHypothesis]
      rfl

theorem Holds.startTags_eq {text : String} {openings : List Opening}
    (holds : Holds text openings) : startTags text = openings.map Opening.read := by
  have gathered := gather_openingFindings openings []
  rw [List.append_nil, gather, List.append_nil] at gathered
  rw [startTags, Finds.findingsFrom_eq holds, gathered]

theorem hasKnownEntities_renderPieces {pieces : List Piece}
    (known : ∀ text, Piece.literal text ∈ pieces → Text.hasKnownEntities text.toList = true) :
    Text.hasKnownEntities (renderPieces pieces).toList = true := by
  induction pieces with
  | nil => rfl
  | cons piece others inductionHypothesis =>
      rw [renderPieces, List.map_cons, String.join_cons, String.toList_append]
      refine Text.hasKnownEntities_append ?_
        (inductionHypothesis fun text member => known text (List.mem_cons_of_mem piece member))
      cases piece with
      | literal text => exact known text List.mem_cons_self
      | content value => exact Text.hasKnownEntities_escapeContent value
      | anywhere value => exact Text.hasKnownEntities_escape value

theorem valueOf?_eq {pieces : List Piece}
    (noEntity : ∀ text, Piece.literal text ∈ pieces → '&' ∉ text.toList) :
    valueOf? pieces = some (String.ofList (pieces.flatMap Piece.meaning)) := by
  have known := hasKnownEntities_renderPieces fun text member =>
    Text.hasKnownEntities_of_not_mem (noEntity text member)
  rw [valueOf?, meaning?, if_pos known, decodeEntities_renderPieces noEntity]

/-- What pieces mean begins with the literal before them. -/
theorem prefix_of_valueOf? {beginning value : String} {pieces : List Piece}
    (noEntity : '&' ∉ beginning.toList)
    (isValue : valueOf? (.literal beginning :: pieces) = some value) :
    beginning.toList <+: value.toList := by
  have isText : (renderPieces (.literal beginning :: pieces)).toList =
      beginning.toList ++ (renderPieces pieces).toList := by
    rw [renderPieces, List.map_cons, String.join_cons, String.toList_append]
    rfl
  rw [valueOf?, meaning?] at isValue
  split at isValue
  · rw [← Option.some.inj isValue, String.toList_ofList, isText,
      Text.decodeEntities_append_of_not_mem noEntity]
    exact List.prefix_append _ _
  · cases isValue

theorem valueOf?_anywhere (value : String) : valueOf? [.anywhere value] = some value := by
  rw [valueOf?_eq (by simp)]
  simp [Piece.meaning]

theorem valueOf?_literal {literal : String} (noEntity : '&' ∉ literal.toList) :
    valueOf? [.literal literal] = some literal := by
  rw [valueOf?_eq (by simpa using noEntity)]
  simp [Piece.meaning]

/-- A value behind a literal means what stands in the two of them. -/
theorem valueOf?_behind {before : String} (plain : '&' ∉ before.toList) (value : String) :
    valueOf? [.literal before, .anywhere value] = some (before ++ value) := by
  have noEntity : ∀ text, Piece.literal text ∈ [.literal before, .anywhere value] →
      '&' ∉ text.toList := by
    intro text member
    simp only [List.mem_cons, Piece.literal.injEq, reduceCtorEq, List.not_mem_nil,
      or_false] at member
    rwa [member]
  rw [valueOf?_eq noEntity]
  simp [Piece.meaning, String.ofList_append]

/-- A value between two literals means what stands in the three of them. -/
theorem valueOf?_between {before after : String} (plainBefore : '&' ∉ before.toList)
    (plainAfter : '&' ∉ after.toList) (value : String) :
    valueOf? [.literal before, .content value, .literal after] =
      some (before ++ value ++ after) := by
  have noEntity : ∀ text, Piece.literal text ∈
      [.literal before, .content value, .literal after] → '&' ∉ text.toList := by
    intro text member
    simp only [List.mem_cons, Piece.literal.injEq, reduceCtorEq, List.not_mem_nil, false_or,
      or_false] at member
    rcases member with rfl | rfl
    · exact plainBefore
    · exact plainAfter
  rw [valueOf?_eq noEntity]
  simp [Piece.meaning, String.ofList_append, String.append_assoc]

theorem read_holding (name value : String) :
    (Attribute.holding name value).read = [(foldedName name.toList, some value)] := by
  rw [Attribute.holding, Attribute.read, valueOf?_anywhere]

theorem valueOf?_content (value : String) : valueOf? [.content value] = some value := by
  rw [valueOf?_eq (by simp)]
  simp [Piece.meaning]

theorem read_content (name value : String) :
    (Attribute.valued name [.content value]).read = [(foldedName name.toList, some value)] := by
  rw [Attribute.read, valueOf?_content]

/-- An attribute with a literal value is read as that value if it holds no entity. -/
theorem read_fixed (name : String) {literal : String} (noEntity : '&' ∉ literal.toList) :
    (Attribute.fixed name literal).read = [(foldedName name.toList, some literal)] := by
  rw [Attribute.fixed, Attribute.read, valueOf?_literal noEntity]

/-- The value of an attribute of a start tag, if it has one that is read. -/
def StartTag.value? (tag : StartTag) (name : String) : Option String :=
  (tag.attributes.lookup name).join

section Value

variable (tag name asked : String) (others : List Attribute)

theorem value?_of_read {written : Attribute} {value : String}
    (isRead : written.read = [(foldedName name.toList, some value)]) :
    (Opening.read ⟨tag, written :: others⟩).value? asked =
      if asked = foldedName name.toList then some value
      else (Opening.read ⟨tag, others⟩).value? asked := by
  simp only [StartTag.value?, Opening.read, List.flatMap_cons, isRead, List.singleton_append,
    List.lookup_cons]
  by_cases same : asked = foldedName name.toList
  · rw [if_pos same, beq_iff_eq.mpr same]
    rfl
  · rw [if_neg same, beq_eq_false_iff_ne.mpr same]

theorem value?_holding (value : String) :
    (Opening.read ⟨tag, .holding name value :: others⟩).value? asked =
      if asked = foldedName name.toList then some value
      else (Opening.read ⟨tag, others⟩).value? asked :=
  value?_of_read tag name asked others (read_holding name value)

theorem value?_fixed {literal : String} (noEntity : '&' ∉ literal.toList) :
    (Opening.read ⟨tag, .fixed name literal :: others⟩).value? asked =
      if asked = foldedName name.toList then some literal
      else (Opening.read ⟨tag, others⟩).value? asked :=
  value?_of_read tag name asked others (read_fixed name noEntity)

end Value

section Attribute

variable {tag asked key : String} {others : List Attribute} {pieces : List Piece}

theorem value?_self (folded : isFoldedName key = true) :
    (Opening.read ⟨tag, .valued key pieces :: others⟩).value? key = valueOf? pieces := by
  simp [StartTag.value?, Opening.read, Attribute.read, foldedName_of_isFoldedName folded]

theorem value?_of_ne (folded : isFoldedName key = true) (differs : asked ≠ key) :
    (Opening.read ⟨tag, .valued key pieces :: others⟩).value? asked =
      (Opening.read ⟨tag, others⟩).value? asked := by
  have differsTest : (asked == key) = false := beq_eq_false_iff_ne.mpr differs
  simp [StartTag.value?, Opening.read, Attribute.read, List.lookup_cons,
    foldedName_of_isFoldedName folded, differsTest]

theorem value?_bare :
    (Opening.read ⟨tag, .bare key :: others⟩).value? asked =
      (Opening.read ⟨tag, others⟩).value? asked :=
  rfl

theorem value?_nil : (Opening.read ⟨tag, []⟩).value? asked = none :=
  rfl

end Attribute

end StaticSite.Markup
