import StaticSite.Page.Compile
import StaticSite.Proofs.Text.Entity

/-!
Contract: what the document of a page tells about its address.

Owns:
- reading a text that holds escaped values from its beginning;
- the beginning of a document, up to its canonical address;
- the law that pages with equal documents have equal paths.

Does not own: the rest of the document (see `StaticSite.Page.Document`).
-/

namespace StaticSite.Page

open StaticSite.Markup

/-! ## Reading up to a character -/

/-- A part that does not hold a character is determined by the text up to the first
occurrence of that character. -/
theorem eq_of_append_cons {mark : Char} {part other rest more : List Char}
    (partPlain : mark ∉ part) (otherPlain : mark ∉ other)
    (same : part ++ mark :: rest = other ++ mark :: more) : part = other ∧ rest = more := by
  induction part generalizing other with
  | nil =>
      cases other with
      | nil => exact ⟨rfl, (List.cons.inj same).2⟩
      | cons first others =>
          have isFirst : mark = first := (List.cons.inj same).1
          exact absurd (by simp [isFirst]) otherPlain
  | cons first others inductionHypothesis =>
      cases other with
      | nil =>
          have isFirst : first = mark := (List.cons.inj same).1
          exact absurd (by simp [isFirst]) partPlain
      | cons second further =>
          obtain ⟨sameFirst, sameRest⟩ := List.cons.inj same
          have found := inductionHypothesis
            (fun member => partPlain (List.mem_cons_of_mem first member))
            (fun member => otherPlain (List.mem_cons_of_mem second member)) sameRest
          exact ⟨by rw [sameFirst, found.1], found.2⟩

/-- An escaped value is determined by the text up to the mark after it. -/
theorem eq_of_escape_append {mark : Char} {value other : String} {rest more : List Char}
    (isMark : mark = '<' ∨ mark = '"')
    (same : (Text.escape value).toList ++ mark :: rest =
      (Text.escape other).toList ++ mark :: more) : value = other ∧ rest = more := by
  have plain : ∀ text : String, mark ∉ (Text.escape text).toList := by
    intro text member
    have outside := Text.mem_escape member
    rcases isMark with isLess | isQuote
    · exact outside.1 isLess
    · exact outside.2.2 isQuote
  have found := eq_of_append_cons (plain value) (plain other) same
  exact ⟨Text.escape_injective found.1, found.2⟩

/-! ## Lines of markup -/

theorem renderLines_cons (child : Html) (others : List Html) :
    Html.renderLines 0 (child :: others) =
      child.renderAt 0 ++ "\n" ++ Html.renderLines 0 others := by
  simp [Html.renderLines, indentation]

theorem renderLines_append (trees others : List Html) :
    Html.renderLines 0 (trees ++ others) =
      Html.renderLines 0 trees ++ Html.renderLines 0 others := by
  induction trees with
  | nil => simp [Html.renderLines]
  | cons tree rest inductionHypothesis =>
      rw [List.cons_append, renderLines_cons, renderLines_cons, inductionHypothesis]
      simp only [String.append_assoc]

theorem renderAt_sheet (tag : String) (attributes : List Attribute) (children : List Html) :
    (Html.sheet tag attributes children).renderAt 0 =
      startTag tag attributes ++ "\n" ++ Html.renderLines 0 children ++ endTag tag := by
  simp [Html.sheet, Html.renderAt, indentation]

theorem documentText_eq (root : Html) :
    documentText root = "<!DOCTYPE html>\n" ++ root.renderAt 0 ++ "\n" := by
  simp [documentText, Text.endLines, Html.render, String.append_assoc]

/-! ## Metadata -/

/-- The text of a metadata element up to its value. -/
def metadataStart (kind name : String) : List Char :=
  ("<meta " ++ kind ++ "=\"" ++ name ++ "\" content=\"").toList

/-- The line of a metadata element with a value. -/
def metadataLine (kind name value : String) : List Char :=
  metadataStart kind name ++ ((Text.escape value).toList ++ ['"', '>', '\n'])

/-- A metadata line is read back from the head of a text, together with what follows. -/
theorem eq_of_metadataLine_append {kind name value other : String} {rest more : List Char}
    (same : metadataLine kind name value ++ rest = metadataLine kind name other ++ more) :
    value = other ∧ rest = more := by
  simp only [metadataLine, List.append_assoc, List.append_cancel_left_eq, List.cons_append,
    List.nil_append] at same
  obtain ⟨sameValue, sameRest⟩ := eq_of_escape_append (Or.inr rfl) same
  exact ⟨sameValue, by simpa using sameRest⟩

theorem toList_renderLines_meta (kind name value : String) (others : List Html) :
    (Html.renderLines 0
        (.void "meta" [.fixed kind name, .holding "content" value] :: others)).toList =
      metadataLine kind name value ++ (Html.renderLines 0 others).toList := by
  simp [Html.renderLines, Html.renderAt, indentation, metadataLine, metadataStart, startTag,
    Attribute.fixed, Attribute.holding, Attribute.render, renderPieces, Piece.render, String.join]

theorem toList_renderLines_title (title : String) (others : List Html) :
    (Html.renderLines 0 (.element "title" [] [.text [.anywhere title]] :: others)).toList =
      "<title>".toList ++ ((Text.escape title).toList ++
        '<' :: ("/title>\n".toList ++ (Html.renderLines 0 others).toList)) := by
  simp [Html.renderLines, Html.renderAt, Html.renderInline, indentation, startTag, endTag,
    renderPieces, Piece.render, String.join]

/-- The metadata that holds the keywords of a page. -/
def keywordsMetadata (keywords : List String) : List Html :=
  if keywords.isEmpty then [] else [metaNamed "keywords" (", ".intercalate keywords)]

/-- The line with the keywords of a page, if it has any. -/
def keywordsLine (keywords : List String) : List Char :=
  if keywords.isEmpty then []
  else metadataLine "name" "keywords" (", ".intercalate keywords)

theorem toList_renderLines_keywords (keywords : List String) (others : List Html) :
    (Html.renderLines 0 (keywordsMetadata keywords ++ others)).toList =
      keywordsLine keywords ++ (Html.renderLines 0 others).toList := by
  unfold keywordsMetadata keywordsLine
  split
  · rfl
  · exact toList_renderLines_meta "name" "keywords" (", ".intercalate keywords) others

/-! ## The beginning of a document -/

/-- The text of a document up to its metadata. -/
def documentStart (website : Website) : String :=
  "<!DOCTYPE html>\n" ++
    startTag "html" [.holding "lang" website.languageOrDefault, .fixed "dir" "ltr"] ++ "\n" ++
    startTag "head" [] ++ "\n"

/-- A document holds the lines of its metadata right after its beginning. -/
theorem exists_documentText_eq (page : Page) (website : Website) (options : Options) (seo : Seo)
    (preloads deferrals : List String) (bodies : List Html) (islands : List Island) :
    ∃ rest, (documentText (documentRoot page website options seo preloads deferrals bodies
        islands)).toList =
      (documentStart website).toList ++
        ((Html.renderLines 0
          (metadata website options seo ++ headLinks page.asset preloads)).toList ++ rest) := by
  let body := Html.renderLines 0 [page.bodyOf website options deferrals bodies islands]
  refine ⟨(endTag "head" ++ "\n" ++ body ++ endTag "html" ++ "\n").toList, ?_⟩
  rw [documentText_eq, documentRoot, renderAt_sheet, renderLines_cons, renderAt_sheet,
    ← String.toList_append, ← String.toList_append]
  refine congrArg String.toList ?_
  unfold documentStart
  simp only [String.append_assoc, body]

/-- The metadata that every document begins with. -/
def leadingMetadata : List Html :=
  [ .void "meta" [.fixed "charset" "UTF-8"],
    metaFixed "name" "viewport" "width=device-width, initial-scale=1.0",
    metaFixed "http-equiv" "X-UA-Compatible" "IE=edge" ]

/-- The metadata of a document up to its canonical address. -/
theorem exists_metadata_eq (website : Website) (options : Options) (seo : Seo)
    (links : List Html) :
    ∃ others, metadata website options seo ++ links =
      leadingMetadata ++ .element "title" [] [.text [.anywhere seo.title]] ::
        metaNamed "description" seo.description :: (keywordsMetadata seo.keywords ++
          metaProperty "og:title" seo.title :: metaProperty "og:description" seo.description ::
            metaFixed "property" "og:type" "website" :: metaProperty "og:url" seo.canonical ::
              others) := by
  simp only [metadata, List.append_assoc, List.cons_append, List.nil_append, leadingMetadata,
    keywordsMetadata]
  exact ⟨_, rfl⟩

/-- The text of a document up to its title. -/
def titleStart (website : Website) : List Char :=
  (documentStart website ++ Html.renderLines 0 leadingMetadata ++ "<title>").toList

/-- The line with the kind of a document. -/
def typeLine : String :=
  (metaFixed "property" "og:type" "website").renderAt 0 ++ "\n"

/-- The text of a document up to its canonical address. -/
theorem exists_titleStart_eq (page : Page) (website : Website) (options : Options) (seo : Seo)
    (preloads deferrals : List String) (bodies : List Html) (islands : List Island) :
    ∃ rest, (documentText (documentRoot page website options seo preloads deferrals bodies
        islands)).toList =
      titleStart website ++ ((Text.escape seo.title).toList ++ '<' :: ("/title>\n".toList ++
        (metadataLine "name" "description" seo.description ++
          (keywordsLine seo.keywords ++
            (metadataLine "property" "og:title" seo.title ++
              (metadataLine "property" "og:description" seo.description ++
                (typeLine.toList ++
                  (metadataLine "property" "og:url" seo.canonical ++ rest)))))))) := by
  obtain ⟨after, isText⟩ := exists_documentText_eq page website options seo preloads deferrals
    bodies islands
  obtain ⟨others, isMetadata⟩ := exists_metadata_eq website options seo
    (headLinks page.asset preloads)
  refine ⟨(Html.renderLines 0 others).toList ++ after, ?_⟩
  rw [isText, isMetadata, renderLines_append, String.toList_append, toList_renderLines_title]
  unfold metaNamed metaProperty
  rw [toList_renderLines_meta, toList_renderLines_keywords, toList_renderLines_meta,
    toList_renderLines_meta, renderLines_cons, String.toList_append, toList_renderLines_meta]
  simp only [titleStart, typeLine, String.toList_append, List.append_assoc, List.cons_append]

/-- What follows the title for previews is determined by the text from the keywords on,
whether or not there are keywords. -/
theorem eq_of_keywordsLine_append {keywords others : List String} {title other : String}
    {rest more : List Char}
    (same : keywordsLine keywords ++ (metadataLine "property" "og:title" title ++ rest) =
      keywordsLine others ++ (metadataLine "property" "og:title" other ++ more)) :
    rest = more := by
  unfold keywordsLine at same
  split at same <;> split at same
  · exact (eq_of_metadataLine_append same).2
  · simp [metadataLine, metadataStart] at same
  · simp [metadataLine, metadataStart] at same
  · exact (eq_of_metadataLine_append (eq_of_metadataLine_append same).2).2

/-- Documents of one website that are equal have the same canonical address. -/
theorem canonical_eq_of_documentText_eq {page other : Page} {website : Website}
    {options : Options} {seo otherSeo : Seo}
    {preloads deferrals otherPreloads otherDeferrals : List String}
    {bodies otherBodies : List Html} {islands otherIslands : List Island}
    (same : documentText (documentRoot page website options seo preloads deferrals bodies islands) =
      documentText (documentRoot other website options otherSeo otherPreloads otherDeferrals
        otherBodies otherIslands)) :
    seo.canonical = otherSeo.canonical := by
  obtain ⟨rest, isText⟩ := exists_titleStart_eq page website options seo preloads deferrals
    bodies islands
  obtain ⟨more, isOther⟩ := exists_titleStart_eq other website options otherSeo otherPreloads
    otherDeferrals otherBodies otherIslands
  rw [same, isOther] at isText
  have afterStart := List.append_cancel_left isText
  have afterTitle := List.append_cancel_left (eq_of_escape_append (Or.inl rfl) afterStart).2
  have afterDescription := (eq_of_metadataLine_append afterTitle).2
  have afterPreviewTitle := eq_of_keywordsLine_append afterDescription
  have afterPreviewDescription := (eq_of_metadataLine_append afterPreviewTitle).2
  have afterType := List.append_cancel_left afterPreviewDescription
  exact (eq_of_metadataLine_append afterType).1.symm

/-- Pages of one website whose documents are equal have the same path. -/
theorem path_eq_of_html_eq {page other : Page} {website : Website} {options : Options}
    (same : (compile page website options).html = (compile other website options).html) :
    page.path = other.path := by
  unfold compile at same
  have sameCanonical : options.siteUrl ++ page.path = options.siteUrl ++ other.path := by
    split at same <;> split at same <;> exact canonical_eq_of_documentText_eq same
  have sameCharacters := congrArg String.toList sameCanonical
  rw [String.toList_append, String.toList_append] at sameCharacters
  exact String.toList_inj.mp (List.append_cancel_left sameCharacters)

end StaticSite.Page
