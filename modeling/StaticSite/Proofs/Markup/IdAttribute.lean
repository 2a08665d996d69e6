import StaticSite.Proofs.Markup.StartTag

/-!
Contract: the id attributes that a text of markup holds.

Owns:
- the values of the id attributes of a text and of a tree;
- the law that they are those of the start tags that a reader finds.

Does not own: finding start tags (see `StaticSite.Proofs.Markup.StartTag`), and which ids the
templates give (see `StaticSite.Proofs.Markup.IdTree`).
-/

namespace StaticSite.Markup

/-! ## Texts -/

/-- Whether an attribute is that of the id, whatever the case of its letters. -/
def isIdName (name : List Char) : Bool :=
  foldLetters name == "id".toList

/-- The value of the id attribute that a character completes, if it does. -/
def Place.completed (place : Place) (character : Char) : List (List Char) :=
  match place with
  | .quoted _ name value => if character == '"' && isIdName name then [value] else []
  | _ => []

/-- The values of the id attributes in a text, as they are written, for a reader at a place. -/
def idsFrom (place : Place) : List Char → List (List Char)
  | [] => []
  | character :: rest => place.completed character ++ idsFrom (place.next character) rest

/-- The id that the value of an attribute means. -/
def idOf (value : List Char) : String :=
  String.ofList (Text.decodeEntities value)

/-- The ids of the elements of a document. -/
def elementIds (document : String) : List String :=
  (idsFrom .text document.toList).map idOf

/-- The id that is found, if something that gives one is. -/
def Finding.ids : Finding → List (List Char)
  | .quoted name value => if isIdName name then [value] else []
  | _ => []

theorem completed_eq_flatMap_findings (place : Place) (character : Char) :
    place.completed character = (place.findings character).flatMap Finding.ids := by
  cases place with
  | quoted tag name value =>
      cases isQuote : character == '"' with
      | true => simp [Place.completed, Place.findings, isQuote, Finding.ids]
      | false => simp [Place.completed, Place.findings, isQuote]
  | text => rfl
  | opened => rfl
  | ending => rfl
  | code tag seen => rfl
  | _ =>
      simp only [Place.completed, Place.findings]
      split_ifs
      all_goals rfl

theorem idsFrom_eq_flatMap_findingsFrom (place : Place) (text : List Char) :
    idsFrom place text = (findingsFrom place text).flatMap Finding.ids := by
  induction text generalizing place with
  | nil => rfl
  | cons character rest inductionHypothesis =>
      rw [idsFrom, findingsFrom, List.flatMap_append, completed_eq_flatMap_findings,
        inductionHypothesis]

/-! ## Trees -/

/-- The ids that an attribute gives to its element. -/
def Attribute.ids : Attribute → List (List Char)
  | .valued name pieces => if isIdName name.toList then [(renderPieces pieces).toList] else []
  | .bare _ => []

/-- The ids that some attributes give to their element. -/
def attributeIds (attributes : List Attribute) : List (List Char) :=
  attributes.flatMap Attribute.ids

namespace Html

mutual

/-- The values of the id attributes of a tree, in the order of its text. -/
def ids : Html → List (List Char)
  | .element _ attributes children => attributeIds attributes ++ idsOf children
  | .void _ attributes => attributeIds attributes
  | .block _ _ attributes children => attributeIds attributes ++ idsOf children
  | .row children => idsOf children
  | _ => []

/-- The values of the id attributes of some trees. -/
def idsOf : List Html → List (List Char)
  | [] => []
  | child :: others => child.ids ++ idsOf others

end

mutual

theorem ids_eq_flatMap_openings :
    ∀ tree : Html, tree.ids = tree.openings.flatMap fun opening => attributeIds opening.attributes
  | .text _ => rfl
  | .verbatim _ => rfl
  | .element tag attributes children => by
      rw [ids, openings, List.flatMap_cons, idsOf_eq_flatMap_openingsOf children]
  | .void tag attributes => by
      rw [ids, openings, List.flatMap_singleton]
  | .block step tag attributes children => by
      rw [ids, openings, List.flatMap_cons, idsOf_eq_flatMap_openingsOf children]
  | .row children => idsOf_eq_flatMap_openingsOf children

theorem idsOf_eq_flatMap_openingsOf :
    ∀ trees : List Html, idsOf trees =
      (openingsOf trees).flatMap fun opening => attributeIds opening.attributes
  | [] => rfl
  | child :: others => by
      rw [idsOf, openingsOf, List.flatMap_append, ids_eq_flatMap_openings child,
        idsOf_eq_flatMap_openingsOf others]

end

theorem idsOf_append (trees others : List Html) :
    idsOf (trees ++ others) = idsOf trees ++ idsOf others := by
  simp only [idsOf_eq_flatMap_openingsOf, openingsOf_append, List.flatMap_append]

theorem idsOf_of_isCode {trees : List Html} (code : ∀ tree ∈ trees, tree.IsCode) :
    idsOf trees = [] := by
  rw [idsOf_eq_flatMap_openingsOf, openingsOf_of_isCode code, List.flatMap_nil]

end Html

theorem flatMap_ids_findings (attributes : List Attribute) :
    (attributes.flatMap Attribute.findings).flatMap Finding.ids = attributeIds attributes := by
  rw [List.flatMap_assoc, attributeIds]
  refine List.flatMap_congr fun written _ => ?_
  cases written with
  | bare name => rfl
  | valued name pieces => exact List.flatMap_singleton _ _

theorem flatMap_ids_openingFindings (openings : List Opening) :
    (openingFindings openings).flatMap Finding.ids =
      openings.flatMap fun opening => attributeIds opening.attributes := by
  rw [openingFindings, List.flatMap_assoc]
  refine List.flatMap_congr fun opening _ => ?_
  rw [Opening.findings, List.flatMap_append, flatMap_ids_findings]
  exact List.append_nil _

/-- A text in which the start tags of a tree are found holds the ids of the tree. -/
theorem Finds.idsFrom_eq {text : List Char} {tree : Html} {start finish : Place}
    (finds : Finds start text (openingFindings tree.openings) finish) :
    idsFrom start text = tree.ids := by
  rw [idsFrom_eq_flatMap_findingsFrom, finds.findingsFrom_eq, flatMap_ids_openingFindings,
    Html.ids_eq_flatMap_openings]

end StaticSite.Markup
