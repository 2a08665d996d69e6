import StaticSite.Component.Catalogue
import StaticSite.Proofs.Markup.Alike
import StaticSite.Proofs.Markup.Query

/-!
Contract: what components show of the items of a list.

Owns:
- the elements for a picture, a tab, a slide, a section and a question, by the texts and the
  position of the item;
- the law that the templates give these elements in the scopes of an item;
- the position that they hold, and what marks the first of them.

Does not own: which items there are, and in which scopes they are shown (see
`StaticSite.Proofs.Emission.Listing`).
-/

namespace StaticSite.Emission

open StaticSite.Component StaticSite.Markup StaticSite.Schema

/-! ## What is shown of an item -/

/-- How some elements show the items of a list: the class that they have, what each of them is for
the texts and the position of an item, the attribute that holds the position, and what marks the
first of them. -/
structure View where
  className : String
  block : (String → String) → Nat → Html
  indexAttribute : Option String := none
  marks : List (Html → Bool) := []

/-- A list that components of a type show: the fields of its records, and how they are shown. -/
structure Listing where
  definition : Definition
  list : String
  itemFields : List Field
  views : List View

def showing (name value : String) : Attribute :=
  .valued name [.content value]

/-- A class, which is active at the first position. -/
def activeAtFirst (name : String) (index : Nat) : Attribute :=
  .valued "class" (.literal name :: if index = 0 then [.literal " active"] else [])

/-- An attribute with one value at the first position and another one behind it. -/
def firstOr (name first later : String) (index : Nat) : Attribute :=
  .fixed name (if index = 0 then first else later)

/-- A tree on a line of its own, which is left empty without the text. -/
def given (text : String) (tree : Html) : Html :=
  .row (if text = "" then [] else [tree])

def isActive (tree : Html) : Bool :=
  tree.readTag.hasClass "active"

/-- Whether an element has a value under an attribute. -/
def hasValue (name value : String) (tree : Html) : Bool :=
  tree.readTag.value? name == some value

def hides : Attribute → Bool
  | .valued name _ => name == "hidden"
  | .bare name => name == "hidden"

/-- Whether an element is not hidden. -/
def isShown (tree : Html) : Bool :=
  !tree.opening.attributes.any hides

/-- A picture of a gallery with its caption. -/
def galleryItem : View :=
  { className := "gallery-item"
    block := fun shown index =>
      .block 2 "div" [.fixed "class" "gallery-item", showing "data-index" (toString index)]
        [ .row
            [ .void "img"
                [ showing "src" (shown "src"),
                  showing "alt" (shown "alt"),
                  .fixed "class" "gallery-image",
                  firstOr "loading" "eager" "lazy" index ] ],
          given (shown "caption")
            (.element "p" [.fixed "class" "gallery-caption"]
              [.text [.content (shown "caption")]]) ]
    indexAttribute := "data-index" }

/-- A picture of a gallery. Only the first is loaded at once. -/
def galleryImage : View :=
  { className := "gallery-image"
    block := fun shown index =>
      .void "img"
        [ showing "src" (shown "src"),
          showing "alt" (shown "alt"),
          .fixed "class" "gallery-image",
          firstOr "loading" "eager" "lazy" index ]
    marks := [hasValue "loading" "eager"] }

/-- The button of a tab. Only the first is active and selected. -/
def tabButton : View :=
  { className := "tab-button"
    block := fun shown index =>
      .element "button"
        [ activeAtFirst "tab-button" index,
          .fixed "role" "tab",
          showing "data-tab-index" (toString index),
          firstOr "aria-selected" "true" "false" index ]
        [.text [.content (shown "title")]]
    indexAttribute := "data-tab-index"
    marks := [isActive, hasValue "aria-selected" "true"] }

/-- The panel of a tab. Only the first is active and not hidden. -/
def tabPanel : View :=
  { className := "tab-panel"
    block := fun shown index =>
      .element "div"
        ([ activeAtFirst "tab-panel" index,
            .fixed "role" "tabpanel",
            showing "data-tab-index" (toString index) ] ++
          if index = 0 then [] else [.bare "hidden"])
        [.text [.content (shown "content")]]
    indexAttribute := "data-tab-index"
    marks := [isActive, isShown] }

/-- A slide. Only the first is active. -/
def carouselSlide : View :=
  { className := "carousel-slide"
    block := fun shown index =>
      .block 2 "div"
        [activeAtFirst "carousel-slide" index, showing "data-slide-index" (toString index)]
        [ given (shown "image")
            (.void "img"
              [ showing "src" (shown "image"),
                .fixed "alt" "",
                firstOr "loading" "eager" "lazy" index ]),
          given (shown "content")
            (.element "div" [.fixed "class" "carousel-caption"]
              [.text [.content (shown "content")]]) ]
    indexAttribute := "data-slide-index"
    marks := [isActive] }

/-- The indicator of a slide. Only the first is active. -/
def carouselIndicator : View :=
  { className := "carousel-indicator"
    block := fun _ index =>
      .element "button"
        [ activeAtFirst "carousel-indicator" index,
          showing "data-slide-index" (toString index),
          .valued "aria-label" [.literal "Go to slide ", .content (toString index)] ]
        []
    indexAttribute := "data-slide-index"
    marks := [isActive] }

/-- A section of an accordion. All are folded at first. -/
def accordionItem : View :=
  { className := "accordion-item"
    block := fun shown index =>
      .block 2 "div" [.fixed "class" "accordion-item"]
        [ .row
            [ .block 2 "button"
                [ .fixed "class" "accordion-header",
                  showing "data-accordion-index" (toString index),
                  .fixed "aria-expanded" "false" ]
                [ .row [.element "span" [] [.text [.content (shown "title")]]],
                  .row
                    [.element "span" [.fixed "class" "accordion-toggle"]
                      [.text [.literal "+"]]] ] ],
          .row
            [ .element "div" [.fixed "class" "accordion-content", .bare "hidden"]
                [.element "p" [] [.text [.content (shown "content")]]] ] ]
    indexAttribute := "data-accordion-index" }

/-- A question with its answer. -/
def faqItem : View :=
  { className := "faq-item"
    block := fun shown index =>
      .block 2 "details" [.fixed "class" "faq-item"]
        [ .row
            [ .element "summary"
                [.fixed "class" "faq-question", showing "data-faq-index" (toString index)]
                [.text [.content (shown "question")]] ],
          .row
            [ .element "div" [.fixed "class" "faq-answer"]
                [.element "p" [] [.text [.content (shown "answer")]]] ] ]
    indexAttribute := "data-faq-index" }

namespace Listing

def gallery : Listing :=
  ⟨Gallery.definition, "images", Gallery.imageFields, [galleryItem, galleryImage]⟩

def tabs : Listing :=
  ⟨Tabs.definition, "tabs", Tabs.tabFields, [tabButton, tabPanel]⟩

def carousel : Listing :=
  ⟨Carousel.definition, "items", Carousel.slideFields, [carouselSlide, carouselIndicator]⟩

def accordion : Listing :=
  ⟨Accordion.definition, "items", Accordion.sectionFields, [accordionItem]⟩

/-- The questions of a component with questions and answers. -/
def faq : Listing :=
  ⟨Faq.definition, "faqs", Faq.questionFields, [faqItem]⟩

end Listing

/-- The lists of pictures, tabs, slides, sections and questions. -/
def listings : List Listing :=
  [.gallery, .tabs, .carousel, .accordion, .faq]

/-- The values that the elements of a tree have under an attribute, in order. -/
def valuesUnder (name : String) (tree : Html) : List String :=
  tree.openings.filterMap fun opening => opening.read.value? name

/-! ## Filling of an item -/

/-- Scopes in which an item of a list is shown: the names of its fields give texts, and its position
is known. -/
structure Places (names : List String) (shown : String → String) (index : Nat) (scopes : Scopes) :
    Prop where
  texts : ∀ name ∈ names, scopes.lookup name = .text (shown name)
  position : scopes.lookup "index" = .int index
  first : scopes.lookup "first" = .bool (index == 0)

theorem fill_attr (scopes : Scopes) (name literal : String) :
    (attr name literal).fill scopes = [.fixed name literal] :=
  rfl

theorem enter_text (scopes : Scopes) (text : String) :
    scopes.enter (.text text) = if text = "" then [] else [.text text :: scopes] := by
  rw [enter_of_isScalar scopes rfl, Json.isTruthy]
  by_cases empty : text = "" <;> simp [empty]

namespace Places

variable {names : List String} {shown : String → String} {index : Nat} {scopes : Scopes}
  {name : String}

theorem fill_slot (places : Places names shown index scopes) (isName : name ∈ names)
    (key : String) : (slot key name).fill scopes = [showing key (shown name)] := by
  rw [slot, AttributeTemplate.fill, fillParts, fillParts, Part.fill, places.texts name isName]
  rfl

theorem fill_field (places : Places names shown index scopes) (isName : name ∈ names) :
    (field name).fill scopes = [.text [.content (shown name)]] := by
  rw [field, Template.fill, Part.fill, places.texts name isName]
  rfl

theorem fill_position (places : Places names shown index scopes) :
    Part.fill scopes (.value "index") = [.content (toString index)] := by
  rw [Part.fill, places.position]
  rfl

theorem fill_index (places : Places names shown index scopes) (key : String) :
    (slot key "index").fill scopes = [showing key (toString index)] := by
  rw [slot, AttributeTemplate.fill, fillParts, fillParts, places.fill_position]
  rfl

theorem fill_active (places : Places names shown index scopes) (className : String) :
    AttributeTemplate.fill scopes
        (.valued "class" [.literal className, .present "first" [.literal " active"]]) =
      [activeAtFirst className index] := by
  rw [AttributeTemplate.fill, fillParts, fillParts, fillParts, Part.fill, Part.fill, places.first]
  cases index <;> rfl

theorem fill_firstOr (places : Places names shown index scopes) (key first later : String) :
    AttributeTemplate.fill scopes
        (.valued key [.present "first" [.literal first], .absent "first" [.literal later]]) =
      [firstOr key first later index] := by
  rw [AttributeTemplate.fill, fillParts, fillParts, fillParts, Part.fill, Part.fill, places.first]
  cases index <;> rfl

theorem fill_hidden (places : Places names shown index scopes) :
    AttributeTemplate.fill scopes (.absent "first" [.bare "hidden"]) =
      if index = 0 then [] else [.bare "hidden"] := by
  rw [AttributeTemplate.fill, places.first]
  cases index <;> rfl

/-- What depends on a text of the item is filled in the scopes of the item, unless the text is
empty. -/
theorem fill_inline (places : Places names shown index scopes) (isName : name ∈ names)
    {template : Template} {tree : Html}
    (isFilled : ∀ {entered}, Places names shown index entered → template.fill entered = [tree]) :
    Html.row (Template.fill scopes (.inline name [template])) = given (shown name) tree := by
  -- A text is a scope that knows no names, so that those of the item are found behind it.
  have entered : Places names shown index (.text (shown name) :: scopes) :=
    ⟨places.texts, places.position, places.first⟩
  rw [Template.fill, places.texts name isName, enter_text, given]
  split
  · rfl
  · rw [List.flatMap_singleton, fillInline, fillInline, List.append_nil, isFilled entered]

theorem fill_caption (places : Places names shown index scopes) (isName : name ∈ names)
    (tag className : String) :
    Html.row (Template.fill scopes
        (.inline name [.element tag [attr "class" className] [field name]])) =
      given (shown name)
        (.element tag [.fixed "class" className] [.text [.content (shown name)]]) := by
  refine places.fill_inline isName fun entered => ?_
  rw [Template.fill, fillInline, fillInline, entered.fill_field isName]
  rfl

end Places

/-- A part of the template of a listing is repeated for its items and gives what a view shows. -/
def Listing.Fills (listing : Listing) (view : View) : Prop :=
  ∃ item, listing.definition.markup.around view.className = [.inline listing.list [item]] ∧
    item.isSoleElement view.className = true ∧ ∀ {shown index scopes},
      Places (listing.itemFields.map Field.name) shown index scopes →
        item.fill scopes = [view.block shown index]

theorem fills_galleryItem : Listing.gallery.Fills galleryItem := by
  refine ⟨_, rfl, rfl, fun places => ?_⟩
  rw [Template.fill]
  simp (disch := decide) only [fillLines, fillAttributes, fill_attr, places.fill_caption,
    places.fill_index]
  simp (disch := decide) only [Template.fill, fillAttributes, fill_attr, places.fill_slot,
    places.fill_firstOr]
  rfl

theorem fills_galleryImage : Listing.gallery.Fills galleryImage := by
  refine ⟨_, rfl, rfl, fun places => ?_⟩
  simp (disch := decide) only [Template.fill, fillAttributes, fill_attr, places.fill_slot,
    places.fill_firstOr]
  rfl

theorem fills_tabButton : Listing.tabs.Fills tabButton := by
  refine ⟨_, rfl, rfl, fun places => ?_⟩
  simp (disch := decide) only [Template.fill, fillInline, fillAttributes, fill_attr,
    places.fill_active, places.fill_index, places.fill_firstOr, places.fill_field]
  rfl

theorem fills_tabPanel : Listing.tabs.Fills tabPanel := by
  refine ⟨_, rfl, rfl, fun places => ?_⟩
  simp (disch := decide) only [Template.fill, fillInline, fillAttributes, fill_attr,
    places.fill_active, places.fill_index, places.fill_hidden, places.fill_field, List.append_nil]
  rfl

theorem fills_carouselSlide : Listing.carousel.Fills carouselSlide := by
  refine ⟨_, rfl, rfl, fun {shown index scopes} places => ?_⟩
  have isImage : Html.row (Template.fill scopes (.inline "image"
      [ .void "img"
          [ slot "src" "image",
            attr "alt" "",
            .valued "loading" [.present "first" ["eager"], .absent "first" ["lazy"]] ] ])) =
      given (shown "image")
        (.void "img"
          [ showing "src" (shown "image"),
            .fixed "alt" "",
            firstOr "loading" "eager" "lazy" index ]) := by
    refine places.fill_inline (by decide) fun entered => ?_
    simp (disch := decide) only [Template.fill, fillAttributes, fill_attr, entered.fill_slot,
      entered.fill_firstOr]
    rfl
  rw [Template.fill]
  simp (disch := decide) only [fillLines, fillAttributes, isImage, places.fill_caption,
    places.fill_active, places.fill_index]
  rfl

theorem fills_carouselIndicator : Listing.carousel.Fills carouselIndicator := by
  refine ⟨_, rfl, rfl, fun {_ index scopes} places => ?_⟩
  have isLabel : AttributeTemplate.fill scopes
      (.valued "aria-label" ["Go to slide ", .value "index"]) =
        [.valued "aria-label" [.literal "Go to slide ", .content (toString index)]] := by
    rw [AttributeTemplate.fill, fillParts, fillParts, fillParts, places.fill_position]
    rfl
  simp only [Template.fill, fillInline, fillAttributes, isLabel, places.fill_active,
    places.fill_index]
  rfl

theorem fills_accordionItem : Listing.accordion.Fills accordionItem := by
  refine ⟨_, rfl, rfl, fun places => ?_⟩
  simp (disch := decide) only [Template.fill, fillLines, fillInline, fillAttributes, fill_attr,
    places.fill_index, places.fill_field]
  rfl

theorem fills_faqItem : Listing.faq.Fills faqItem := by
  refine ⟨_, rfl, rfl, fun places => ?_⟩
  simp (disch := decide) only [Template.fill, fillLines, fillInline, fillAttributes, fill_attr,
    places.fill_index, places.fill_field]
  rfl

theorem fills_of_mem : ∀ listing ∈ listings, ∀ view ∈ listing.views, listing.Fills view := by
  simp only [listings, List.forall_mem_cons, List.not_mem_nil, IsEmpty.forall_iff, implies_true,
    and_true]
  refine ⟨?_, ?_, ?_, ?_, ?_⟩
  · exact List.forall_mem_cons.mpr
      ⟨fills_galleryItem, List.forall_mem_singleton.mpr fills_galleryImage⟩
  · exact List.forall_mem_cons.mpr
      ⟨fills_tabButton, List.forall_mem_singleton.mpr fills_tabPanel⟩
  · exact List.forall_mem_cons.mpr
      ⟨fills_carouselSlide, List.forall_mem_singleton.mpr fills_carouselIndicator⟩
  · exact List.forall_mem_singleton.mpr fills_accordionItem
  · exact List.forall_mem_singleton.mpr fills_faqItem

/-! ## Positions and marks -/

theorem filterMap_given (test : Opening → Option String) (text : String) (tree : Html) :
    (given text tree).openings.filterMap test =
      if text = "" then [] else tree.openings.filterMap test := by
  rw [given, Html.openings]
  split
  · rfl
  · rw [Html.openingsOf, Html.openingsOf, List.append_nil]

theorem valueOf?_firstOr {first later : String}
    (plain : '&' ∉ first.toList ∧ '&' ∉ later.toList) (differ : later ≠ first) (index : Nat) :
    (valueOf? [.literal (if index = 0 then first else later)] == some first) = (index == 0) := by
  cases index with
  | zero => simp [valueOf?_literal plain.1]
  | succ _ => simp [valueOf?_literal plain.2, differ]

theorem listsClass_activeAtFirst {className : String} (isOne : isWord className = true)
    (other : className ≠ "active") (index : Nat) :
    (activeAtFirst className index).read.any (listsClass "active") = (index == 0) := by
  obtain ⟨noBlank, noEntity⟩ := not_mem_of_isWord isOne
  have folded : foldedName "class".toList = "class" := by decide
  cases index with
  | zero =>
      have isValue : valueOf? [.literal className, .literal " active"] =
          some (String.ofList (className.toList ++ ' ' :: "active".toList)) := by
        have noEntities : ∀ text, Piece.literal text ∈ [.literal className, .literal " active"] →
            '&' ∉ text.toList := by
          simp only [List.mem_cons, Piece.literal.injEq, List.not_mem_nil, or_false]
          rintro text (rfl | rfl)
          · exact noEntity
          · decide
        rw [valueOf?_eq noEntities]
        rfl
      have listed : (Text.splitAt ' '
          (String.ofList (className.toList ++ ' ' :: "active".toList))).contains "active" = true := by
        rw [Text.contains_splitAt_iff, String.toList_ofList, Text.pieces_append]
        exact List.mem_append_right _ (by decide)
      rw [activeAtFirst, if_pos rfl, Attribute.read, folded, isValue, List.any_cons, List.any_nil,
        Bool.or_false, listsClass, Option.any_some, listed]
      rfl
  | succ position =>
      have apart : ([className].contains "active") = false := by simpa using other.symm
      rw [activeAtFirst, if_neg (Nat.succ_ne_zero position), Attribute.read, folded,
        valueOf?_literal noEntity, List.any_cons, List.any_nil, Bool.or_false, listsClass,
        Option.any_some, Text.splitAt_of_not_mem noBlank, apart]
      rfl

section Block

variable (shown : String → String) (index : Nat)

theorem valuesUnder_block : ∀ listing ∈ listings, ∀ view ∈ listing.views,
    ∀ name ∈ view.indexAttribute, valuesUnder name (view.block shown index) = [toString index] := by
  simp only [listings, Listing.gallery, Listing.tabs, Listing.carousel, Listing.accordion,
    Listing.faq, List.forall_mem_cons, List.not_mem_nil, IsEmpty.forall_iff, implies_true, and_true,
    galleryItem, galleryImage, tabButton, tabPanel, carouselSlide, carouselIndicator, accordionItem,
    faqItem]
  refine ⟨⟨?_, nofun⟩, ⟨?_, ?_⟩, ⟨?_, ?_⟩, ?_, ?_⟩
  all_goals
    rintro _ ⟨⟩
    simp (disch := decide) only [valuesUnder, Html.openings, Html.openingsOf, List.append_nil,
      List.cons_append, List.nil_append, List.filterMap_append, List.filterMap_cons,
      List.filterMap_nil, filterMap_given, ite_self, Attribute.fixed, showing, firstOr,
      activeAtFirst, value?_self, value?_of_ne, value?_nil, value?_bare, valueOf?_content]

theorem isActive_block : ∀ view ∈ [tabButton, tabPanel, carouselSlide, carouselIndicator],
    isActive (view.block shown index) = (index == 0) := by
  have hidden : ((if index = 0 then [] else [Attribute.bare "hidden"]).flatMap Attribute.read).any
      (listsClass "active") = false := by
    split <;> rfl
  simp only [List.forall_mem_cons, List.not_mem_nil, IsEmpty.forall_iff, implies_true, and_true,
    tabButton, tabPanel, carouselSlide, carouselIndicator]
  refine ⟨?_, ?_, ?_, ?_⟩
  all_goals
    simp (disch := decide) only [isActive, Html.readTag, Html.opening, StartTag.hasClass,
      Opening.read, List.cons_append, List.nil_append, List.flatMap_cons, List.flatMap_nil,
      List.any_append, List.any_nil, listsClass_activeAtFirst, showing, Attribute.fixed, firstOr,
      listsClass_of_ne, hidden, Bool.or_false]

theorem isEager_galleryImage :
    hasValue "loading" "eager" (galleryImage.block shown index) = (index == 0) := by
  simp (disch := decide) only [galleryImage, hasValue, Html.readTag, Html.opening, showing,
    Attribute.fixed, firstOr, value?_self, value?_of_ne, valueOf?_firstOr]

theorem isSelected_tabButton :
    hasValue "aria-selected" "true" (tabButton.block shown index) = (index == 0) := by
  simp (disch := decide) only [tabButton, hasValue, Html.readTag, Html.opening, activeAtFirst,
    showing, Attribute.fixed, firstOr, value?_self, value?_of_ne, valueOf?_firstOr]

theorem isShown_tabPanel : isShown (tabPanel.block shown index) = (index == 0) := by
  cases index <;> rfl

/-- What marks the first element of a view holds of the first only. -/
theorem mark_block : ∀ listing ∈ listings, ∀ view ∈ listing.views,
    ∀ mark ∈ view.marks, mark (view.block shown index) = (index == 0) := by
  have active := isActive_block shown index
  simp only [List.forall_mem_cons, List.not_mem_nil, IsEmpty.forall_iff, implies_true,
    and_true] at active
  obtain ⟨activeButton, activePanel, activeSlide, activeIndicator⟩ := active
  simp only [listings, Listing.gallery, Listing.tabs, Listing.carousel, Listing.accordion,
    Listing.faq, List.forall_mem_cons, List.not_mem_nil, IsEmpty.forall_iff, implies_true, and_true]
  refine ⟨⟨nofun, ?_⟩, ⟨?_, ?_⟩, ⟨?_, ?_⟩, nofun, nofun⟩
  · exact List.forall_mem_singleton.mpr (isEager_galleryImage shown index)
  · exact List.forall_mem_cons.mpr
      ⟨activeButton, List.forall_mem_singleton.mpr (isSelected_tabButton shown index)⟩
  · exact List.forall_mem_cons.mpr
      ⟨activePanel, List.forall_mem_singleton.mpr (isShown_tabPanel shown index)⟩
  · exact List.forall_mem_singleton.mpr activeSlide
  · exact List.forall_mem_singleton.mpr activeIndicator

end Block

end StaticSite.Emission
