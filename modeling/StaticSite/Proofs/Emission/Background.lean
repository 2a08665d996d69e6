import StaticSite.Proofs.Emission.StartTag
import StaticSite.Proofs.Markup.Alike
import StaticSite.Proofs.Markup.Link
import StaticSite.Proofs.Style.Declaration
import StaticSite.Proofs.Url.Filter

/-!
Contract: the background of a hero, an address in quotes in a style in an attribute.

Owns:
- the address of the background that the props of a hero give, and the style with it;
- the law that the address stays within its quotes exactly if it has no line break, and when it has
  one;
- a hero whose background gives it further declarations.

Does not own: the tokens of styles (see `StaticSite.Proofs.Style.Declaration`), and what the filter
does to the other characters of an address (see `StaticSite.Proofs.Url.Filter`).
-/

namespace StaticSite.Emission

open StaticSite.Component StaticSite.Markup StaticSite.Schema

/-! ## The values of a hero -/

/-- The address of the background that the props of a hero give; empty if they give none. -/
def backgroundOf (node : Node) : String :=
  if textOf (node.prop "backgroundImage") == "" then ""
  else Url.safe (textOf (node.prop "backgroundImage"))

def heroValues (title subtitle text link address : String) : Json.Members :=
  [ ("title", .text title), ("subtitle", .text subtitle), ("button_text", .text text),
    ("button_link", .text link), ("background_image", .text address) ]

theorem exists_coerceFields_hero (node : Node) :
    ∃ title subtitle text link, coerceFields node.props Hero.fields =
      .ok (heroValues title subtitle text link (backgroundOf node)) :=
  ⟨_, _, _, _,
    coerceFields_cons (coerce_textField node.props "title" "title" "Welcome") <|
    coerceFields_cons (coerce_textField node.props "subtitle" "subtitle" "") <|
    coerceFields_cons (coerce_textField node.props "button_text" "buttonText" "") <|
    coerceFields_cons (coerce_linkField node.props "button_link" "buttonLink" "#") <|
    coerceFields_cons (coerce_linkField node.props "background_image" "backgroundImage" "") rfl⟩

/-! ## The markup of a hero -/

def backgroundStyle (address : String) : String :=
  "background-image: url('" ++ address ++ "')"

/-- The start tags of a hero but for its button and its background. -/
def heroFrame : List Opening :=
  [ ⟨"div", [.fixed "class" "hero-section"]⟩,
    ⟨"div", [.fixed "class" "hero-content"]⟩,
    ⟨"h1", [.fixed "class" "hero-title"]⟩,
    ⟨"p", [.fixed "class" "hero-subtitle"]⟩ ]

/-- The start tag of the background of a hero. -/
def backgroundOpening (address : String) : Opening :=
  ⟨"div",
    [ .fixed "class" "hero-background",
      .valued "style"
        [.literal "background-image: url('", .content address, .literal "')"] ]⟩

/-- The start tags of the markup of a hero in a scope with its values. -/
theorem exists_openings_hero {scopes : Scopes} {text address : String}
    (isText : scopes.lookup "button_text" = .text text)
    (isAddress : scopes.lookup "background_image" = .text address) :
    ∃ link, Html.openingsOf (Hero.markup.fill scopes) =
      heroFrame ++
        (if text = "" then [] else [⟨"a", [.valued "href" link, .fixed "class" "hero-button"]⟩]) ++
        (if address = "" then [] else [backgroundOpening address]) := by
  have entered (value : String) :
      scopes.enter (.text value) = if value = "" then [] else [.text value :: scopes] := by
    rw [enter_of_isScalar scopes rfl]
    simp [Json.isTruthy]
  have inside : Scopes.lookup (.text address :: scopes) "background_image" = .text address :=
    isAddress
  refine ⟨[.content (filledText (Scopes.lookup (.text text :: scopes) "button_link"))], ?_⟩
  simp only [Hero.markup, Template.fill, fillLines, fillInline, Html.openingsOf, Html.openings,
    attr, slot, field, fillAttributes, AttributeTemplate.fill, fillParts, Part.fill, isText,
    isAddress, entered]
  by_cases noText : text = ""
  · by_cases noAddress : address = ""
    · rw [if_pos noText, if_pos noText, if_pos noAddress, if_pos noAddress]
      rfl
    · rw [if_pos noText, if_pos noText, if_neg noAddress, if_neg noAddress]
      simp only [List.flatMap_cons, inside]
      rfl
  · by_cases noAddress : address = ""
    · rw [if_neg noText, if_neg noText, if_pos noAddress, if_pos noAddress]
      rfl
    · rw [if_neg noText, if_neg noText, if_neg noAddress, if_neg noAddress]
      simp only [List.flatMap_cons, inside]
      rfl

/-- Whether a start tag is that of the background of a hero. -/
def isBackground (tag : StartTag) : Bool :=
  tag.has ("class", "hero-background")

/-- The styles of the backgrounds in a text of markup. -/
def backgroundStyles (html : String) : List (Option String) :=
  ((startTags html).filter isBackground).map (·.value? "style")

theorem read_backgroundOpening (address : String) :
    (backgroundOpening address).read =
      ⟨"div", [("class", some "hero-background"), ("style", some (backgroundStyle address))]⟩ := by
  have isStyle : valueOf? [.literal "background-image: url('", .content address, .literal "')"] =
      some (backgroundStyle address) :=
    valueOf?_between (by decide) (by decide) address
  have isClass : (Attribute.fixed "class" "hero-background").read =
      [("class", some "hero-background")] := by
    decide +kernel
  have names : foldedName "div".toList = "div" ∧ foldedName "style".toList = "style" := by
    decide
  rw [backgroundOpening, Opening.read, List.flatMap_cons, isClass, List.flatMap_singleton,
    Attribute.read, isStyle, names.1, names.2]
  rfl

theorem isBackground_frame : ∀ opening ∈ heroFrame, isBackground opening.read = false := by
  decide +kernel

theorem isBackground_button (link : List Piece) :
    isBackground (Opening.read ⟨"a", [.valued "href" link, .fixed "class" "hero-button"]⟩) =
      false := by
  refine Bool.not_eq_true _ ▸ fun isOne => ?_
  obtain ⟨name, pieces, member, isClass, isValue⟩ := exists_of_has isOne
  rcases List.mem_cons.mp member with isLink | isOther
  · rw [(Attribute.valued.inj isLink).1] at isClass
    exact absurd isClass (by decide)
  · rw [(Attribute.valued.inj (List.mem_singleton.mp isOther)).2,
      valueOf?_literal (by decide)] at isValue
    exact absurd (Option.some.inj isValue) (by decide)

theorem isBackground_container {node : Node} (isHero : node.type = "hero") :
    isBackground (containerTag node) = false := by
  rw [isBackground, StartTag.has, containerTag, isHero]
  simp

/-- The backgrounds among the start tags of a hero. -/
theorem backgrounds_hero {scopes : Scopes} {text address : String}
    (isText : scopes.lookup "button_text" = .text text)
    (isAddress : scopes.lookup "background_image" = .text address) :
    ((Html.openingsOf (Hero.markup.fill scopes)).map Opening.read).filter isBackground =
      if address = "" then [] else [(backgroundOpening address).read] := by
  obtain ⟨link, areOpenings⟩ := exists_openings_hero isText isAddress
  have isOne : isBackground (backgroundOpening address).read = true := by
    rw [read_backgroundOpening]
    rfl
  rw [areOpenings, List.map_append, List.map_append, List.filter_append, List.filter_append,
    filter_read_eq_nil isBackground_frame]
  by_cases noText : text = ""
  · by_cases noAddress : address = ""
    · simp [noText, noAddress]
    · simp [noText, noAddress, isOne]
  · by_cases noAddress : address = ""
    · simp [noText, noAddress, isBackground_button]
    · simp [noText, noAddress, isBackground_button, isOne]

/-- A hero is rendered, and shows its background if it has one. -/
theorem exists_emit_hero {node : Node} (isHero : node.type = "hero") :
    ∃ fragment, Emitter.builtIn.emit node = .ok fragment ∧
      backgroundStyles fragment.body.render =
        if backgroundOf node = "" then [] else [some (backgroundStyle (backgroundOf node))] := by
  obtain ⟨title, subtitle, text, link, coerced⟩ := exists_coerceFields_hero node
  generalize isValues : heroValues title subtitle text link (backgroundOf node) = values at coerced
  have isText : Scopes.lookup [Hero.definition.scope node values] "button_text" = .text text := by
    rw [← isValues]
    rfl
  have isAddress : Scopes.lookup [Hero.definition.scope node values] "background_image" =
      .text (backgroundOf node) := by
    rw [← isValues]
    rfl
  have areBackgrounds : ((Html.openingsOf (Hero.definition.markup.fill
      [Hero.definition.scope node values])).map Opening.read).filter isBackground = _ :=
    backgrounds_hero isText isAddress
  have isDefinition : Hero.definition ∈ catalogue := by simp [catalogue]
  obtain ⟨fragment, emitted, tags⟩ := exists_emit_of_coerced isDefinition rfl isHero coerced
  refine ⟨fragment, emitted, ?_⟩
  rw [backgroundStyles, tags, List.filter_cons_of_neg (by simp [isBackground_container isHero]),
    areBackgrounds]
  by_cases noAddress : backgroundOf node = ""
  · rw [if_pos noAddress, if_pos noAddress]
    rfl
  · rw [if_neg noAddress, if_neg noAddress, read_backgroundOpening]
    rfl

/-! ## The declarations of a background -/

/-- The declaration of a background whose address stays within its quotes. -/
def backgroundDeclaration (address : String) : List Style.Token :=
  Style.marks "background-image: url(" ++ [.quoted address.toList] ++ Style.marks ")"

theorem tokens_backgroundStyle (address : String) :
    Style.tokens (backgroundStyle address) = Style.marks "background-image: url(" ++
      Style.tokensFrom (.quoted '\'' []) (address.toList ++ "')".toList) := by
  have apart (before after : String) :
      (before ++ address ++ after).toList = before.toList ++ (address.toList ++ after.toList) := by
    rw [String.toList_append, String.toList_append, List.append_assoc]
  have beginning : "background-image: url('".toList = "background-image: url(".toList ++ ['\''] := by
    decide
  have isText : (backgroundStyle address).toList =
      "background-image: url(".toList ++ '\'' :: (address.toList ++ "')".toList) :=
    (apart _ _).trans ((congrArg (· ++ _) beginning).trans (List.append_assoc _ _ _))
  have isMark : ∀ character ∈ "background-image: url(".toList,
      Style.isQuote character = false ∧ character ≠ '/' :=
    Text.forall_mem_of_all (by decide)
  exact (congrArg (Style.tokensFrom .between) isText).trans
    (Style.tokensFrom_between_append isMark _)

/-- The style of a background is one declaration with the address in quotes exactly if the address
is on one line. -/
theorem declarations_backgroundStyle_iff {address : String}
    (plain : ∀ character ∈ address.toList, Url.isQuoteOrBackslash character = false) :
    Style.declarations (backgroundStyle address) = [backgroundDeclaration address] ↔
      Style.holdsLineBreak address = false := by
  have inside : ∀ character ∈ address.toList, Style.isInsideQuotes character = true := by
    intro character member
    exact Bool.not_eq_true' _ ▸ plain character member
  rw [Style.declarations, tokens_backgroundStyle]
  constructor
  · intro isOne
    refine Bool.not_eq_true _ ▸ fun severalLines => ?_
    have isQuote : Style.isQuote '\'' = true := rfl
    obtain ⟨line, lineEnd, others, _, _, isBroken⟩ :=
      Style.tokensFrom_quoted_broken inside isQuote severalLines "')".toList
    rw [isBroken] at isOne
    have isToken : Style.Token.broken line ∈ [] ++ (Style.marks "background-image: url(" ++
        .broken line :: .mark lineEnd :: Style.tokensFrom .between (others ++ "')".toList)) :=
      List.mem_append_right _ (List.mem_append_right _ List.mem_cons_self)
    obtain ⟨declaration, isDeclaration, isInside⟩ :=
      Style.exists_mem_declarationsFrom (fun _ isMark => by cases isMark) [] [] isToken
    rw [isOne, List.mem_singleton] at isDeclaration
    rw [isDeclaration] at isInside
    simp [backgroundDeclaration, Style.marks] at isInside
  · intro oneLine
    have onLine : ∀ character ∈ address.toList, Style.endsLine character = false :=
      fun character member => Bool.not_eq_true _ ▸ List.any_eq_false.mp oneLine character member
    have isQuote : Style.isQuote '\'' = true := rfl
    rw [Style.tokensFrom_quoted_append inside isQuote onLine, List.nil_append]
    rfl

/-! ## Line breaks in addresses -/

theorem holdsLineBreak_safe (link : String) :
    Style.holdsLineBreak (Url.safe link) =
      (!Url.hasForbiddenScheme link.toList && Style.holdsLineBreak (Text.strip link)) := by
  have encoded (character : Char) :
      (Url.encodeCharacter character).any Style.endsLine = Style.endsLine character := by
    unfold Url.encodeCharacter
    split
    · rfl
    · rfl
    · rfl
    · exact Bool.or_false _
  have sameScheme := Url.hasForbiddenScheme_dropEndsWhile link.toList
  rw [Url.safe, Text.strip, Style.holdsLineBreak, Style.holdsLineBreak]
  cases forbidden : Url.hasForbiddenScheme link.toList with
  | true =>
      rw [sameScheme, forbidden, if_pos rfl]
      rfl
  | false =>
      rw [sameScheme, forbidden, if_neg Bool.false_ne_true, String.toList_ofList,
        String.toList_ofList, List.any_flatMap, Bool.not_false, Bool.true_and]
      simp only [encoded]

/-- The background of a hero has a line break if the trimmed text of its prop has one and no
forbidden scheme. -/
theorem holdsLineBreak_backgroundOf (node : Node) :
    Style.holdsLineBreak (backgroundOf node) =
      (!Url.hasForbiddenScheme (textOf (node.prop "backgroundImage")).toList &&
        Style.holdsLineBreak (Text.strip (textOf (node.prop "backgroundImage")))) := by
  unfold backgroundOf
  by_cases isNothing : textOf (node.prop "backgroundImage") = ""
  · rw [isNothing]
    rfl
  · rw [if_neg (by simp [isNothing]), holdsLineBreak_safe]

theorem not_quote_of_mem_backgroundOf (node : Node) :
    ∀ character ∈ (backgroundOf node).toList, Url.isQuoteOrBackslash character = false := by
  unfold backgroundOf
  split
  · exact nofun
  · exact (Url.plain_safe _).2.1

/-! ## The background of a hero -/

/-- A hero with a background is rendered with one style that holds the address of the background
between single quotes. The address holds no quotes and no backslash. It stays within its quotes, so
that nothing of it is read as further declarations, exactly if it holds no line break; and it holds
one exactly if the trimmed text of the prop does and has no forbidden scheme. -/
theorem background_contained_iff (node : Node) (isHero : node.type = "hero") :
    ∃ values fragment, coerceFields node.props Hero.fields = .ok values ∧
      values.lookup "background_image" = some (.text (backgroundOf node)) ∧
      Emitter.builtIn.emit node = .ok fragment ∧
      backgroundStyles fragment.body.render =
        (if backgroundOf node = "" then [] else [some (backgroundStyle (backgroundOf node))]) ∧
      (∀ character ∈ (backgroundOf node).toList, Url.isQuoteOrBackslash character = false) ∧
      (Style.declarations (backgroundStyle (backgroundOf node)) =
          [backgroundDeclaration (backgroundOf node)] ↔
        Style.holdsLineBreak (backgroundOf node) = false) ∧
      (Style.holdsLineBreak (backgroundOf node) = true ↔
        Url.hasForbiddenScheme (textOf (node.prop "backgroundImage")).toList = false ∧
          Style.holdsLineBreak (Text.strip (textOf (node.prop "backgroundImage"))) = true) := by
  obtain ⟨title, subtitle, text, link, coerced⟩ := exists_coerceFields_hero node
  obtain ⟨fragment, emitted, areBackgrounds⟩ := exists_emit_hero isHero
  have plain := not_quote_of_mem_backgroundOf node
  refine ⟨_, fragment, coerced, rfl, emitted, areBackgrounds, plain,
    declarations_backgroundStyle_iff plain, ?_⟩
  rw [holdsLineBreak_backgroundOf, Bool.and_eq_true, Bool.not_eq_true']

def plainHero : Node :=
  ⟨"h", "hero", [("backgroundImage", .text " /bg.jpg'); color: red; ('")]⟩

/-- A background with quotes stays within those of its style. -/
theorem background_contained_plainHero :
    plainHero.type = "hero" ∧ backgroundOf plainHero = "/bg.jpg%27); color: red; (%27" ∧
      ∃ fragment, Emitter.builtIn.emit plainHero = .ok fragment ∧
        backgroundStyles fragment.body.render = [some (backgroundStyle (backgroundOf plainHero))] ∧
        Style.declarations (backgroundStyle (backgroundOf plainHero)) =
          [backgroundDeclaration (backgroundOf plainHero)] := by
  have isAddress : backgroundOf plainHero = "/bg.jpg%27); color: red; (%27" := by decide
  obtain ⟨values, fragment, _, _, emitted, areBackgrounds, _, contained, _⟩ :=
    background_contained_iff plainHero rfl
  refine ⟨rfl, isAddress, fragment, emitted, ?_, contained.mpr ?_⟩
  · rw [areBackgrounds, if_neg]
    rw [isAddress]
    decide
  · rw [isAddress]
    decide

def splitHero : Node :=
  ⟨"h", "hero", [("backgroundImage", .text "a\n); color: red; x: y")]⟩

/-- The background of a hero does not always stay within its quotes: behind a line break, a text of
the prop is read as a declaration of its own. -/
theorem not_background_contained :
    (¬ ∀ (node : Node) (fragment : Fragment), node.type = "hero" →
      Emitter.builtIn.emit node = .ok fragment →
      ∀ style, some style ∈ backgroundStyles fragment.body.render →
        ∃ address, style = backgroundStyle address ∧
          (∀ character ∈ address.toList, Style.endsLine character = false) ∧
          Style.declarations style = [backgroundDeclaration address]) ∧
      Style.marks " color: red" ∈ Style.declarations (backgroundStyle (backgroundOf splitHero)) := by
  have isAddress : backgroundOf splitHero = "a\n); color: red; x: y" := by decide
  have isFurther : Style.marks " color: red" ∈
      Style.declarations (backgroundStyle "a\n); color: red; x: y") := by
    decide +kernel
  have areThree : (Style.declarations (backgroundStyle "a\n); color: red; x: y")).length = 3 := by
    decide +kernel
  rw [isAddress]
  refine ⟨fun contained => ?_, isFurther⟩
  have isHero : splitHero.type = "hero" := rfl
  obtain ⟨fragment, emitted, areBackgrounds⟩ := exists_emit_hero isHero
  rw [isAddress, if_neg (by decide)] at areBackgrounds
  obtain ⟨address, _, _, isOne⟩ := contained splitHero fragment isHero emitted _
    (areBackgrounds ▸ List.mem_singleton_self _)
  rw [isOne] at areThree
  cases areThree

end StaticSite.Emission
