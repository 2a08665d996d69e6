import StaticSite.Proofs.Site.CompileTime

/-!
Contract: what the sitemap of a site says about its pages, and how it is read.

Owns:
- a reader of sitemaps, which knows tags, elements and entities;
- the tags of a sitemap, none of which comes from an address;
- the law that the reader finds the entries of a sitemap again;
- the law that the sitemap of a site describes its pages.

Does not own: how the text of a sitemap is cut into pieces (see
`StaticSite.Proofs.Site.SitemapText`), and the times that it tells (see
`StaticSite.Proofs.Site.CompileTime`).
-/

namespace StaticSite.Site

open StaticSite.Markup StaticSite.Page

/-! ## A reader of sitemaps -/

/-- A tag of a document without its brackets, and the text behind it up to the next tag. -/
structure TagText where
  tag : List Char
  behind : List Char

/-- What follows a left angle bracket, cut at its first right one. -/
def TagText.ofPiece (piece : List Char) : TagText :=
  { tag := piece.takeWhile (· != '>')
    behind := (piece.dropWhile (· != '>')).tail }

def tagTexts (document : String) : List TagText :=
  (Text.pieces '<' document.toList).tail.map TagText.ofPiece

/-- The tags within each element of a name. -/
def elementsNamed (name : List Char) : List TagText → List (List TagText)
  | [] => []
  | first :: others =>
      if first.tag = name then
        others.takeWhile (·.tag != '/' :: name) :: elementsNamed name others
      else
        elementsNamed name others

/-- The text of the first element of a name, which ends at the next tag. -/
def textOf (name : List Char) : List TagText → Option (List Char)
  | opening :: closing :: others =>
      if opening.tag = name then
        if closing.tag = '/' :: name then some opening.behind else none
      else
        textOf name (closing :: others)
  | _ => none

/-- The address and the time of an entry that is read. -/
structure ReadEntry where
  url : String
  lastmod : String
  deriving DecidableEq

/-- The name of the element of an entry. -/
def urlTag : List Char :=
  ['u', 'r', 'l']

/-- The name of the element of an address. -/
def locTag : List Char :=
  ['l', 'o', 'c']

/-- The name of the element of a priority. -/
def priorityTag : List Char :=
  ['p', 'r', 'i', 'o', 'r', 'i', 't', 'y']

/-- The entry in the block of an element. -/
def readEntry (block : List TagText) : Option ReadEntry := do
  let url ← textOf locTag block
  let lastmod ← textOf lastmodTag block
  return ⟨String.ofList (Text.decodeEntities url), String.ofList lastmod⟩

def readSitemap (sitemap : String) : Option (List ReadEntry) :=
  (elementsNamed urlTag (tagTexts sitemap)).mapM readEntry

theorem ofPiece_tagPiece {tag : List Char} (plain : '>' ∉ tag) (behind : List Char) :
    TagText.ofPiece (tagPiece tag behind) = ⟨tag, behind⟩ := by
  have notBracket : ∀ character ∈ tag, (character != '>') = true := by
    intro character member
    exact bne_iff_ne.mpr fun same => plain (same ▸ member)
  rw [TagText.ofPiece, tagPiece, List.takeWhile_append_of_pos notBracket,
    List.dropWhile_append_of_pos notBracket]
  simp

/-! ## The tags of an entry -/

/-- What stands in the element of an entry that is read. -/
def entryBlock (entry : SitemapEntry) : List TagText :=
  [ ⟨locTag, (Text.escape entry.url).toList⟩, ⟨'/' :: locTag, lineStart 4⟩,
    ⟨lastmodTag, entry.lastmod.toList⟩, ⟨'/' :: lastmodTag, lineStart 4⟩,
    ⟨priorityTag, entry.priority.onePlaceText.toList⟩, ⟨'/' :: priorityTag, lineStart 2⟩ ]

def entryTags : List String :=
  ["url", "loc", "/loc", "lastmod", "/lastmod", "priority", "/priority", "/url"]

theorem map_ofPiece_entryPieces (entry : SitemapEntry) :
    (entryPieces entry).tail.map TagText.ofPiece =
      ⟨urlTag, lineStart 4⟩ :: entryBlock entry := by
  have escaped : renderPieces [.anywhere entry.url] = Text.escape entry.url := by
    rw [renderPieces, List.map_singleton, String.join_cons, String.join_nil, String.append_empty]
    rfl
  have names : "url".toList = urlTag ∧ "loc".toList = locTag ∧ "priority".toList = priorityTag := by
    decide
  have plainTags : '>' ∉ urlTag ∧ '>' ∉ locTag ∧ '>' ∉ '/' :: locTag ∧ '>' ∉ lastmodTag ∧
      '>' ∉ '/' :: lastmodTag ∧ '>' ∉ priorityTag ∧ '>' ∉ '/' :: priorityTag := by
    decide
  obtain ⟨url, loc, locEnd, lastmod, lastmodEnd, priority, priorityEnd⟩ := plainTags
  simp only [entryPieces, entryBlock, names, List.tail_cons, List.map_cons, List.map_nil,
    ofPiece_tagPiece url, ofPiece_tagPiece loc, ofPiece_tagPiece locEnd, ofPiece_tagPiece lastmod,
    ofPiece_tagPiece lastmodEnd, ofPiece_tagPiece priority, ofPiece_tagPiece priorityEnd, escaped]

/-- The element of an entry is one element, whatever the entry holds and whatever follows. -/
theorem elementsNamed_entry (entry : SitemapEntry) (behind : List Char) (rest : List TagText) :
    elementsNamed urlTag
        (⟨urlTag, lineStart 4⟩ :: entryBlock entry ++ ⟨'/' :: urlTag, behind⟩ :: rest) =
      entryBlock entry :: elementsNamed urlTag rest :=
  rfl

/-- The address and the time stand in elements of their own, the address in its escaped form. -/
theorem textOf_entryBlock (entry : SitemapEntry) :
    textOf locTag (entryBlock entry) = some (Text.escape entry.url).toList ∧
      textOf lastmodTag (entryBlock entry) = some entry.lastmod.toList := by
  have apart : locTag ≠ lastmodTag ∧ '/' :: locTag ≠ lastmodTag := by decide
  simp only [entryBlock, textOf, apart, if_true, if_false, and_self]

theorem readEntry_entryBlock (entry : SitemapEntry) :
    readEntry (entryBlock entry) = some ⟨entry.url, entry.lastmod⟩ := by
  rw [readEntry, (textOf_entryBlock entry).1, (textOf_entryBlock entry).2]
  simp only [Option.bind_eq_bind, Option.bind_some, Text.decodeEntities_escape,
    String.ofList_toList]
  rfl

/-! ## The tags of a sitemap -/

/-- The pieces of some entries and of the end of a sitemap have the tags of the entries, each entry
in an element of its own. -/
theorem tags_entriesText {entries : List SitemapEntry} (plain : ∀ entry ∈ entries, entry.IsPlain) :
    ∃ first others, Text.pieces '<' (entriesText entries) = first :: others ∧
      (others.map TagText.ofPiece).map (String.ofList ·.tag) =
        entries.flatMap (fun _ => entryTags) ++ ["/urlset"] ∧
      elementsNamed urlTag (others.map TagText.ofPiece) = entries.map entryBlock := by
  induction entries with
  | nil =>
      have ending : Text.pieces '<' (entriesText []) =
          [[], tagPiece ('/' :: "urlset".toList) ['\n']] := by
        decide
      exact ⟨_, _, ending, by decide, rfl⟩
  | cons entry entries inductionHypothesis =>
      obtain ⟨entryPlain, othersPlain⟩ := List.forall_mem_cons.mp plain
      obtain ⟨first, others, isRest, tags, blocks⟩ := inductionHypothesis othersPlain
      have isPieces : entryPieces entry = (indentation 2).toList :: (entryPieces entry).tail := rfl
      have closing : TagText.ofPiece (tagPiece ('/' :: "url".toList) ('\n' :: first)) =
          ⟨'/' :: urlTag, '\n' :: first⟩ :=
        ofPiece_tagPiece (by decide) _
      have isText := pieces_entriesText_cons entryPlain isRest
      rw [isPieces, List.cons_append] at isText
      refine ⟨_, _, isText, ?_, ?_⟩
      · have ofEntry : (TagText.mk urlTag (lineStart 4) :: entryBlock entry ++
            [TagText.mk ('/' :: urlTag) ('\n' :: first)]).map (String.ofList ·.tag) =
              entryTags := by
          simp only [entryBlock, List.cons_append, List.nil_append, List.map_cons, List.map_nil]
          decide
        rw [List.map_append, map_ofPiece_entryPieces, List.map_cons, closing,
          List.append_cons, List.map_append, ofEntry, tags, List.flatMap_cons, List.append_assoc]
      · rw [List.map_append, map_ofPiece_entryPieces, List.map_cons, closing, elementsNamed_entry,
          blocks, List.map_cons]

/-- The tags ahead of the entries of a sitemap. -/
def headTags : List String :=
  [ "?xml version=\"1.0\" encoding=\"UTF-8\"?",
    "urlset xmlns=\"http://www.sitemaps.org/schemas/sitemap/0.9\"" ]

/-- The declaration of a sitemap is a tag that is not the one of an entry. -/
theorem ofPiece_declarationPiece :
    String.ofList (TagText.ofPiece declarationPiece).tag =
        "?xml version=\"1.0\" encoding=\"UTF-8\"?" ∧
      (TagText.ofPiece declarationPiece).tag ≠ urlTag := by
  have isPiece : declarationPiece = _ := String.toList_ofList
  rw [isPiece]
  decide

/-- The start tag of a sitemap is a tag that is not the one of an entry. -/
theorem ofPiece_sitemapPiece (behind : List Char) :
    (TagText.ofPiece (tagPiece sitemapTag behind)).tag = sitemapTag ∧ sitemapTag ≠ urlTag := by
  refine ⟨congrArg TagText.tag (ofPiece_tagPiece headPieces_plain.2.2 behind), ?_⟩
  have isTag : sitemapTag = _ := String.toList_ofList
  rw [isTag]
  decide

/-- The tags of a sitemap whose entries hold no brackets depend on their number alone, and each
entry has an element of its own. -/
theorem tags_sitemapText {entries : List SitemapEntry} (plain : ∀ entry ∈ entries, entry.IsPlain) :
    (tagTexts (sitemapText entries)).map (String.ofList ·.tag) =
        headTags ++ entries.flatMap (fun _ => entryTags) ++ ["/urlset"] ∧
      elementsNamed urlTag (tagTexts (sitemapText entries)) = entries.map entryBlock := by
  obtain ⟨first, others, isRest, tags, blocks⟩ := tags_entriesText plain
  obtain ⟨declaration, notUrl⟩ := ofPiece_declarationPiece
  obtain ⟨start, startNotUrl⟩ := ofPiece_sitemapPiece ('\n' :: first)
  have isTags : tagTexts (sitemapText entries) =
      TagText.ofPiece declarationPiece :: TagText.ofPiece (tagPiece sitemapTag ('\n' :: first)) ::
        others.map TagText.ofPiece := by
    rw [tagTexts, pieces_sitemapText isRest, List.cons_append, List.tail_cons,
      List.singleton_append, List.map_cons, List.map_cons]
  constructor
  · have startText : String.ofList sitemapTag =
        "urlset xmlns=\"http://www.sitemaps.org/schemas/sitemap/0.9\"" :=
      String.ofList_toList
    simp only [isTags, List.map_cons, tags, declaration, start, startText, headTags,
      List.cons_append, List.nil_append]
  · rw [isTags, elementsNamed, if_neg notUrl, elementsNamed, start, if_neg startNotUrl, blocks]

/-! ## Reading a sitemap back -/

/-- What is read from the text of some entries. -/
structure ReadsBack (entries : List SitemapEntry) : Prop where
  /-- The entries are read back in order. -/
  sameEntries : readSitemap (sitemapText entries) =
    some (entries.map fun entry => ⟨entry.url, entry.lastmod⟩)
  /-- No entry opens or closes an element but its own. -/
  sameTags : (tagTexts (sitemapText entries)).map (String.ofList ·.tag) =
    headTags ++ entries.flatMap (fun _ => entryTags) ++ ["/urlset"]
  /-- No bracket of an address is written as such. -/
  plainLocations : ∀ block ∈ elementsNamed urlTag (tagTexts (sitemapText entries)),
    ∃ location, textOf locTag block = some location ∧ '<' ∉ location ∧ '>' ∉ location

/-- Entries are read back if their times hold no brackets, whatever their addresses. -/
theorem readsBack_of_plain {entries : List SitemapEntry}
    (plainTimes : ∀ entry ∈ entries, '<' ∉ entry.lastmod.toList) : ReadsBack entries := by
  obtain ⟨tags, blocks⟩ := tags_sitemapText fun entry member =>
    isPlain_of_lastmod (plainTimes entry member)
  refine ⟨?_, tags, ?_⟩
  · have readBlocks (entry : SitemapEntry) :
        readEntry (entryBlock entry) = pure ⟨entry.url, entry.lastmod⟩ :=
      readEntry_entryBlock entry
    rw [readSitemap, blocks, List.mapM_map]
    simp only [Function.comp_def, readBlocks, List.mapM_pure]
    rfl
  · intro block member
    rw [blocks] at member
    obtain ⟨entry, _, rfl⟩ := List.mem_map.mp member
    exact ⟨_, (textOf_entryBlock entry).1, fun less => (Text.mem_escape less).1 rfl,
      fun greater => (Text.mem_escape greater).2.1 rfl⟩

/-! ## The sitemap of a site -/

theorem canonical_compile (page : Page) (website : Website) (options : Options) :
    (Page.compile page website options).seo.canonical = options.siteUrl ++ page.path := by
  unfold Page.compile
  split <;> simp only [compileContent, seoOf]

/-- What the entries of a sitemap say about the pages of a site. -/
structure DescribesPages (sitemap : List SitemapEntry) (pages : List CompiledPage) : Prop where
  /-- There is one entry for each page, in order, and it tells the page's own address. -/
  sameAddresses : sitemap.map (·.url) = pages.map (·.seo.canonical)
  /-- No two entries tell the same address. -/
  distinctAddresses : (sitemap.map (·.url)).Nodup
  /-- The page at the root comes first for search engines. -/
  priorities : sitemap.map (·.priority) = pages.map fun page =>
    if page.path = "/" then Binary64.ofDecimal false 1 0 else Binary64.ofDecimal false 8 (-1)
  /-- The priorities are written with one decimal place. -/
  priorityTexts : sitemap.map (·.priority.onePlaceText) = pages.map fun page =>
    if page.path = "/" then "1.0" else "0.8"

theorem nodup_addresses (website : Website) (options : Options) :
    ((pagesOf website).map fun page => options.siteUrl ++ page.path).Nodup := by
  refine List.pairwise_map.mpr ((pairwise_apart_pagesOf website).imp fun apart sameAddress => ?_)
  exact apart.path ((String.append_right_inj _).mp sameAddress)

theorem describesPages_compileAt (website : Website) (options : Options) (time : UtcTime) :
    DescribesPages (compileAt website options time).sitemap
      (compileAt website options time).pages := by
  have rootText : rootPriority.onePlaceText = "1.0" := by decide
  have pageText : pagePriority.onePlaceText = "0.8" := by decide
  constructor
  · simp only [compileAt, sitemapOf, sitemapEntry, List.map_map, Function.comp_def, path_compile,
      canonical_compile]
  · simp only [compileAt, sitemapOf, sitemapEntry, List.map_map, Function.comp_def, path_compile]
    exact nodup_addresses website options
  · simp only [compileAt, sitemapOf, sitemapEntry, List.map_map, Function.comp_def, beq_iff_eq,
      rootPriority, pagePriority]
  · simp only [compileAt, sitemapOf, sitemapEntry, List.map_map, Function.comp_def, beq_iff_eq,
      apply_ite Binary64.onePlaceText, rootText, pageText]

/-- The sitemap describes the compiled pages of a site, whatever the website, the options and the
time, and it is a file of the site that is read back. Any entries at all are read back from their
text if their times hold no left angle bracket, and no address shows in the tags. -/
theorem sitemap_describes_pages :
    (∀ (website : Website) (options : Options) (time : ZonedTime),
      (time.IsProper → ((∃ site, compile website options time = .ok site) ↔ time.InCalendar)) ∧
      ∀ site, compile website options time = .ok site →
        DescribesPages site.sitemap site.pages ∧
        (filesOf site).lookup "sitemap.xml" =
          some ⟨"sitemap.xml", sitemapText site.sitemap, "application/xml"⟩ ∧
        ReadsBack site.sitemap) ∧
    ∀ entries : List SitemapEntry, (∀ entry ∈ entries, '<' ∉ entry.lastmod.toList) →
      ReadsBack entries := by
  refine ⟨fun website options time => ⟨compile_ok_iff website options, ?_⟩,
    fun entries => readsBack_of_plain⟩
  intro site compiled
  obtain ⟨utc, rfl⟩ := eq_compileAt_of_compile compiled
  refine ⟨describesPages_compileAt website options utc, lookup_sitemap website options utc, ?_⟩
  apply readsBack_of_plain
  intro entry member
  obtain ⟨page, _, rfl⟩ := List.mem_map.mp member
  exact less_not_mem_text utc

/-- Slugs that look like markup are addresses and nothing else, and so are those of any entry. -/
theorem sitemap_describes_pages_of_hostile_slugs :
    (∃ site, compile (websiteOfSlugs [("a", "/"), ("b", "</loc></url><url>&amp;")]) {} someNoon =
        .ok site ∧
      readSitemap (sitemapText site.sitemap) =
        some
          [ ⟨"http://localhost:8000/", "2024-01-01T12:00:00Z"⟩,
            ⟨"http://localhost:8000/</loc></url><url>&amp;", "2024-01-01T12:00:00Z"⟩ ]) ∧
      readSitemap (sitemapText [⟨"</url>", "a > b & c", .infinite true⟩]) =
        some [⟨"</url>", "a > b & c"⟩] := by
  have compiled :=
    compile_someNoon (websiteOfSlugs [("a", "/"), ("b", "</loc></url><url>&amp;")]) {}
  obtain ⟨-, -, readBack⟩ := (sitemap_describes_pages.1 _ {} someNoon).2 _ compiled
  refine ⟨⟨_, compiled, ?_⟩, ?_⟩
  · rw [readBack.sameEntries]
    decide +kernel
  · have plain : ∀ entry ∈ [SitemapEntry.mk "</url>" "a > b & c" (.infinite true)],
        '<' ∉ entry.lastmod.toList :=
      List.forall_mem_singleton.mpr (by decide)
    exact (sitemap_describes_pages.2 _ plain).sameEntries

end StaticSite.Site
