import StaticSite.Proofs.Emission.Background
import StaticSite.Proofs.Emission.Gallery
import StaticSite.Proofs.Page.Concatenation
import StaticSite.Proofs.Schema.Contract

/-!
Contract: the files that a page hints at, against those that its markup shows.

Owns:
- the pictures and the backgrounds in the markup of components, and the files of their fonts;
- the law that a page hints at these files: hints are taken from what is stored, markup from what it
  is coerced to, and both come to the same links.

Does not own: the markup of galleries and heroes (see `StaticSite.Proofs.Emission.Gallery` and
`StaticSite.Proofs.Emission.Background`), and repeated hints (see `StaticSite.Proofs.Page.Hint`).
-/

namespace StaticSite.Page

open StaticSite.Component StaticSite.Emission StaticSite.Schema

/-! ## Files in markup -/

def markupOf (node : Node) : String :=
  (Emitter.builtIn.emitOrSubstitute node).body.render

/-- The sources of the pictures of a gallery that can wait: of the pictures that its markup shows
behind the first three, those whose stored source is a text that is not blank. -/
def latePictures (node : Node) : List String :=
  if node.type = "gallery" then
    (((pictureSources (markupOf node)).zip
      ((pictureRecords node).map (storedIn · "src"))).drop 3).filterMap fun picture =>
        if isWritten picture.2 then picture.1 else none
  else
    []

/-- What stands in a style between its first two single quotes. -/
def quotedIn? (style : String) : Option String :=
  (Text.splitAt '\'' style)[1]?

/-- The address of the background that the markup of a hero shows, if a text that is not blank is
stored for it. -/
def shownBackground (node : Node) : List String :=
  if node.type = "hero" ∧ isWritten (node.prop "backgroundImage") = true then
    (backgroundStyles (markupOf node)).filterMap (·.bind quotedIn?)
  else
    []

/-- The file of the font of a component, if a text that is not blank is stored for it. -/
def fontFile (nameFont : String → String) (node : Node) : List String :=
  match node.prop "fontFamily" with
  | .text font =>
      if Text.strip font = "" then [] else [Url.safe ("/fonts/" ++ nameFont font ++ ".woff2")]
  | _ => []

/-- Whether the files that a page hints at are those that the markup of some components shows, each
where it comes first, with fonts named in some way. -/
structure HintsAgree (nameFont : String → String) (components : List Node) (hints : Performance) :
    Prop where
  /-- A gallery is rendered with one picture for each record of its list. -/
  galleries : ∀ node ∈ components, node.type = "gallery" →
    ∃ fragment, ∃ addresses : List String, Emitter.builtIn.emit node = .ok fragment ∧
      markupOf node = fragment.body.render ∧
      pictureSources (markupOf node) = addresses.map some ∧
      addresses.length = (pictureRecords node).length
  /-- A hero is rendered with the background that is stored for it. -/
  heroes : ∀ node ∈ components, node.type = "hero" →
    isWritten (node.prop "backgroundImage") = true →
      ∃ fragment address, Emitter.builtIn.emit node = .ok fragment ∧
        markupOf node = fragment.body.render ∧
        backgroundStyles (markupOf node) = [some (backgroundStyle address)] ∧
        shownBackground node = [address]
  deferrals_eq : hints.deferrals =
    ((components.flatMap latePictures).filter (· != Url.harmless)).eraseDups
  preloads_eq : hints.preloads =
    (components.flatMap fun node =>
      (shownBackground node).filter (· != Url.harmless) ++ fontFile nameFont node).eraseDups
  distinct : hints.deferrals.Nodup ∧ hints.preloads.Nodup
  notHarmless : Url.harmless ∉ hints.deferrals ∧ Url.harmless ∉ hints.preloads

/-! ## Stored texts -/

theorem trimmedText_eq (stored : Json) :
    Island.trimmedText stored = if isWritten stored then textOf stored else "" := by
  cases stored with
  | text text =>
      by_cases blank : Text.strip text = ""
      · simp [Island.trimmedText, isWritten, blank]
      · simp [Island.trimmedText, isWritten, textOf, blank]
  | _ => rfl

theorem textOf_ne_empty {stored : Json} (written : isWritten stored = true) :
    textOf stored ≠ "" := by
  cases stored with
  | text text => exact bne_iff_ne.mp written
  | _ => cases written

/-! ## Pictures that can wait -/

theorem markupOf_eq {node : Node} {fragment : Fragment}
    (emitted : Emitter.builtIn.emit node = .ok fragment) :
    markupOf node = fragment.body.render := by
  rw [markupOf, Emitter.emitOrSubstitute, emitted]

theorem pictureSources_markupOf {node : Node} (isGallery : node.type = "gallery") :
    pictureSources (markupOf node) =
      (pictureRecords node).map fun record => some (pictureAddress record) := by
  obtain ⟨fragment, emitted, arePictures⟩ := exists_emit_gallery isGallery
  rw [markupOf_eq emitted, arePictures]

theorem pictureSources_eq (items : List Json) :
    Island.pictureSources items =
      (recordsIn items).map fun record => Island.trimmedText (storedIn record "src") := by
  rw [Island.pictureSources, recordsIn, List.map_filterMap]
  congr 1
  funext item
  cases item with
  | object members => rfl
  | _ => rfl

theorem deferrals_gallery {node : Node} (isGallery : node.type = "gallery") :
    Island.deferrals node = Island.nonempty (((pictureRecords node).drop 3).map fun record =>
      Island.trimmedText (storedIn record "src")) := by
  rw [Island.deferrals, if_pos (beq_iff_eq.mpr isGallery), pictureRecords, List.map_drop]
  cases node.prop "images" with
  | array items =>
      dsimp only
      rw [pictureSources_eq]
      rfl
  | _ => rfl

/-- The source of the picture of a record if a text that is not blank is stored for it. -/
def writtenPicture? (record : Json.Members) : Option String :=
  if isWritten (storedIn record "src") then some (pictureAddress record) else none

theorem nonempty_singleton {text : String} (some : text ≠ "") : Island.nonempty [text] = [text] :=
  List.filter_cons_of_pos (bne_iff_ne.mpr some)

/-- What the markup of records shows is the link of what is stored in them. -/
theorem filterMap_writtenPicture? (records : List Json.Members) :
    records.filterMap writtenPicture? =
      (Island.nonempty (records.map fun record =>
        Island.trimmedText (storedIn record "src"))).map Url.safe := by
  induction records with
  | nil => rfl
  | cons record others inductionHypothesis =>
      have first : Island.nonempty (Island.trimmedText (storedIn record "src") ::
          others.map fun record => Island.trimmedText (storedIn record "src")) =
          Island.nonempty [Island.trimmedText (storedIn record "src")] ++
            Island.nonempty (others.map fun record => Island.trimmedText (storedIn record "src")) :=
        List.filter_append [_] _
      rw [List.map_cons, first, List.map_append, ← inductionHypothesis, trimmedText_eq]
      cases written : isWritten (storedIn record "src") with
      | true =>
          have nonblank := textOf_ne_empty written
          have isAddress : pictureAddress record = Url.safe (textOf (storedIn record "src")) :=
            if_neg (mt beq_iff_eq.mp nonblank)
          have isShown : writtenPicture? record = some (Url.safe (textOf (storedIn record "src"))) :=
            (if_pos written).trans (congrArg some isAddress)
          rw [List.filterMap_cons_some isShown, if_pos rfl, nonempty_singleton nonblank]
          rfl
      | false =>
          have notShown : writtenPicture? record = none := if_neg (by simp [written])
          rw [List.filterMap_cons_none notShown]
          rfl

theorem latePictures_eq (node : Node) :
    latePictures node = (Island.deferrals node).map Url.safe := by
  by_cases isGallery : node.type = "gallery"
  · rw [latePictures, if_pos isGallery, deferrals_gallery isGallery, ← filterMap_writtenPicture?,
      pictureSources_markupOf isGallery, List.zip_map', ← List.map_drop, List.filterMap_map]
    rfl
  · rw [latePictures, if_neg isGallery, Island.deferrals, if_neg (by simpa using isGallery)]
    rfl

/-! ## Files to load ahead -/

theorem quotedIn?_between {before address after : String} (plainBefore : '\'' ∉ before.toList)
    (noQuote : '\'' ∉ address.toList) (plainAfter : '\'' ∉ after.toList) :
    quotedIn? (before ++ "'" ++ address ++ ("'" ++ after)) = some address := by
  have joined : before ++ "'" ++ address ++ ("'" ++ after) =
      "'".intercalate [before, address, after] := by
    rw [← String.toList_inj, String.toList_intercalate]
    simp [List.intercalate]
  have plain : ∀ part ∈ [before, address, after], '\'' ∉ part.toList := by
    simp [plainBefore, noQuote, plainAfter]
  rw [quotedIn?, joined, Text.splitAt_intercalate rfl (by simp) plain]
  rfl

theorem quotedIn?_backgroundStyle {address : String} (noQuote : '\'' ∉ address.toList) :
    quotedIn? (backgroundStyle address) = some address := by
  have opened : "background-image: url('" = "background-image: url(" ++ "'" := by decide
  have closed : "')" = "'" ++ ")" := by decide
  have isQuoted : backgroundStyle address =
      "background-image: url(" ++ "'" ++ address ++ ("'" ++ ")") :=
    congrArg₂ (fun before after => before ++ address ++ after) opened closed
  exact (congrArg quotedIn? isQuoted).trans (quotedIn?_between (by decide) noQuote (by decide))

theorem backgroundOf_of_isWritten {node : Node}
    (written : isWritten (node.prop "backgroundImage") = true) :
    Emission.backgroundOf node = Url.safe (textOf (node.prop "backgroundImage")) :=
  if_neg (mt beq_iff_eq.mp (textOf_ne_empty written))

/-- A hero shows one background if a text that is not blank is stored for it. -/
theorem shownBackground_hero {node : Node} (isHero : node.type = "hero")
    (written : isWritten (node.prop "backgroundImage") = true) :
    backgroundStyles (markupOf node) = [some (backgroundStyle (Emission.backgroundOf node))] ∧
      shownBackground node = [Emission.backgroundOf node] := by
  obtain ⟨fragment, emitted, areBackgrounds⟩ := exists_emit_hero isHero
  -- The filter leaves no quote in a link, so the quotes of the style are the only ones.
  have noQuote : '\'' ∉ (Emission.backgroundOf node).toList := by
    intro member
    exact absurd (not_quote_of_mem_backgroundOf node _ member) (by decide)
  have some : Emission.backgroundOf node ≠ "" := by
    rw [backgroundOf_of_isWritten written]
    exact (isFiltered_safe_textOf (textOf_ne_empty written)).1
  rw [if_neg some, ← markupOf_eq emitted] at areBackgrounds
  refine ⟨areBackgrounds, ?_⟩
  rw [shownBackground, if_pos ⟨isHero, written⟩, areBackgrounds]
  simp [quotedIn?_backgroundStyle noQuote]

/-- The background that a hero shows is the link of the one that is hinted at. -/
theorem filter_shownBackground (node : Node) :
    (shownBackground node).filter (· != Url.harmless) = linksOf (Island.backgroundOf node) := by
  rw [Island.backgroundOf, trimmedText_eq]
  by_cases isHero : node.type = "hero"
  · cases written : isWritten (node.prop "backgroundImage") with
    | true =>
        rw [(shownBackground_hero isHero written).2, backgroundOf_of_isWritten written,
          if_pos (beq_iff_eq.mpr isHero), if_pos rfl, nonempty_singleton (textOf_ne_empty written)]
        rfl
    | false =>
        rw [shownBackground, if_neg (by simp [written]), if_pos (beq_iff_eq.mpr isHero)]
        rfl
  · rw [shownBackground, if_neg (fun both => isHero both.1), if_neg (by simpa using isHero)]
    rfl

theorem fontFile_eq (node : Node) : fontFile Text.strip node = linksOf (Island.fontOf node) := by
  rw [fontFile, Island.fontOf]
  cases node.prop "fontFamily" with
  | text font =>
      dsimp only
      by_cases blank : Text.strip font = ""
      · rw [if_pos blank, Island.trimmedText, blank]
        rfl
      · have notHarmless : Url.safe ("/fonts/" ++ Text.strip font ++ ".woff2") ≠ Url.harmless :=
          Url.safe_ne_harmless_of_rooted (by simp)
        rw [if_neg blank, Island.trimmedText, nonempty_singleton blank]
        exact (linksOf_singleton notHarmless).symm
  | _ => rfl

theorem linksOf_flatMap (components : List Node) (hintsOf : Node → List String) :
    linksOf (components.flatMap hintsOf) = components.flatMap fun node => linksOf (hintsOf node) := by
  rw [linksOf, List.map_flatMap, List.filter_flatMap]
  rfl

/-! ## The files of a page -/

theorem hintsAgree_collectHints (components : List Node) (criticalStyle : String) :
    HintsAgree Text.strip components
      { criticalStyle := criticalStyle
        preloads := collectHints (components.flatMap Island.preloads)
        deferrals := collectHints (components.flatMap Island.deferrals) } where
  galleries := by
    intro node _ isGallery
    obtain ⟨fragment, emitted, arePictures⟩ := exists_emit_gallery isGallery
    refine ⟨fragment, (pictureRecords node).map pictureAddress, emitted, markupOf_eq emitted, ?_,
      List.length_map _⟩
    rw [pictureSources_markupOf isGallery, List.map_map]
    rfl
  heroes := by
    intro node _ isHero written
    obtain ⟨fragment, emitted, _⟩ := exists_emit_hero isHero
    exact ⟨fragment, _, emitted, markupOf_eq emitted, shownBackground_hero isHero written⟩
  deferrals_eq := by
    have shown : linksOf (components.flatMap Island.deferrals) =
        (components.flatMap latePictures).filter (· != Url.harmless) := by
      rw [linksOf, List.map_flatMap, funext latePictures_eq]
    exact (collectHints_eq _).trans (congrArg List.eraseDups shown)
  preloads_eq := by
    have ofNode (node : Node) : linksOf (Island.preloads node) =
        (shownBackground node).filter (· != Url.harmless) ++ fontFile Text.strip node := by
      rw [Island.preloads, linksOf_append, filter_shownBackground, fontFile_eq]
    refine (collectHints_eq _).trans ?_
    rw [linksOf_flatMap, funext ofNode]
  distinct := ⟨nodup_collectHints _, nodup_collectHints _⟩
  notHarmless := ⟨fun listed => (of_mem_collectHints listed).2 rfl,
    fun listed => (of_mem_collectHints listed).2 rfl⟩

/-- A page hints at the files that its markup shows. The pictures that can wait are those that its
galleries show behind their first three, if a text is stored as their source; the files to load ahead
are the backgrounds that its heroes show, if a text is stored for them, and the files of fonts, which
are named by the stored texts without the blanks around them. Both lists name each file once, where
it comes first, and leave out the harmless link. -/
theorem hints_agree_with_markup (website : Website) (options : Options) :
    (∀ (page : Page) (warnings : List Warning) (content : Content),
      HintsAgree Text.strip content.components
        (compileContent page website options warnings content).performance) ∧
      ∀ page : Page,
        HintsAgree Text.strip (componentsOf page) (compile page website options).performance := by
  refine ⟨fun page warnings content => hintsAgree_collectHints content.components criticalStyle,
    fun page => ?_⟩
  rw [compile, componentsOf]
  cases readContent page.content with
  | ok content => exact hintsAgree_collectHints content.components criticalStyle
  | error error => exact hintsAgree_collectHints [] criticalStyle

/-- A text with a font whose name has blanks around it. -/
def fontEntry : Json :=
  .object
    [ ("id", .text "t"), ("type", .text "text"),
      ("props", .object [("fontFamily", .text " Inter ")]) ]

def fontContent : String :=
  contentText ("\x7b\"id\":\"t\",\"type\":\"text\"," ++
    "\"props\":\x7b\"fontFamily\":\" Inter \"\x7d\x7d")

theorem lists_font : Lists fontContent [fontEntry] none :=
  ⟨[("components", .array [fontEntry])], by with_unfolding_all rfl, by decide, rfl, rfl⟩

theorem bringIds_font : BringIds [fontEntry] where
  safe := List.forall_mem_singleton.mpr ⟨_, "t", rfl, rfl, by decide, by decide⟩
  distinct := List.nodup_singleton _

/-- The component that is stored as this text. -/
def fontNode : Node :=
  ⟨"t", "text", [("fontFamily", .text " Inter ")]⟩

/-- The file of a font is not named by the stored text with the blanks around it. -/
theorem not_hints_agree_with_markup :
    ¬ ∀ (website : Website) (options : Options) (page : Page),
      HintsAgree (fun font => font) (componentsOf page)
        (compile page website options).performance := by
  intro agree
  have areHints := (agree statsWebsite {} (statsPage.withContent fontContent)).preloads_eq
  have isNode : storedAlone [fontEntry] = [fontNode] := by with_unfolding_all rfl
  have noBackground : shownBackground fontNode = [] := if_neg fun both => absurd both.1 (by decide)
  have arePreloads : (compileContent (statsPage.withContent fontContent) statsWebsite {} []
      ⟨[fontNode], none⟩).performance.preloads = ["/fonts/Inter.woff2"] := by
    decide
  have isFile : fontFile (fun font => font) fontNode = ["/fonts/ Inter .woff2"] := by decide
  rw [compile_of_lists statsPage statsWebsite {} lists_font bringIds_font,
    componentsOf_of_lists statsPage lists_font bringIds_font, isNode, List.flatMap_singleton,
    noBackground, isFile] at areHints
  exact absurd (arePreloads.symm.trans areHints) (by decide)

end StaticSite.Page
