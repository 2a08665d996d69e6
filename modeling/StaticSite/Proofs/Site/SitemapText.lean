import StaticSite.Proofs.Markup.Guard
import StaticSite.Proofs.Number.Notation
import StaticSite.Proofs.Text.Split
import StaticSite.Site.Sitemap

/-!
Contract: the text of a sitemap, cut at its left angle brackets.

Owns:
- the pieces of the element of an entry, of some entries and of a whole sitemap;
- the entries whose text holds no brackets but those of its tags.

Does not own: what is read from the pieces (see `StaticSite.Proofs.Site.CompileTime` for the times
and `StaticSite.Proofs.Site.Sitemap` for the entries).
-/

namespace StaticSite.Site

open StaticSite.Markup

/-! ## Pieces -/

/-- A piece of a sitemap, cut at its left angle brackets: a tag, and what stands behind it. -/
def tagPiece (tag : List Char) (behind : List Char) : List Char :=
  tag ++ '>' :: behind

/-- The tag behind which a sitemap tells a time. -/
def lastmodTag : List Char :=
  ['l', 'a', 's', 't', 'm', 'o', 'd']

/-- The pieces of a text in which plain parts stand ahead of brackets. -/
theorem pieces_flatMap_append {separator : Char} {parts : List (List Char)}
    (plain : ∀ part ∈ parts, separator ∉ part) (rest : List Char) :
    Text.pieces separator (parts.flatMap (· ++ [separator]) ++ rest) =
      parts ++ Text.pieces separator rest := by
  induction parts with
  | nil => rfl
  | cons part others inductionHypothesis =>
      obtain ⟨partPlain, othersPlain⟩ := List.forall_mem_cons.mp plain
      rw [List.flatMap_cons, List.append_assoc, List.append_assoc, List.singleton_append,
        Text.pieces_append, inductionHypothesis othersPlain, Text.pieces_eq_splitOn separator part,
        List.splitOn_eq_singleton partPlain, List.singleton_append, List.cons_append]

/-- What stands ahead of the first bracket of a text goes to its first piece. -/
theorem pieces_plain_append {separator : Char} {plain : List Char} (isPlain : separator ∉ plain)
    {rest first : List Char} {others : List (List Char)}
    (isRest : Text.pieces separator rest = first :: others) :
    Text.pieces separator (plain ++ rest) = (plain ++ first) :: others := by
  induction plain with
  | nil => exact isRest
  | cons character further inductionHypothesis =>
      obtain ⟨differs, furtherPlain⟩ := not_or.mp (List.mem_cons.not.mp isPlain)
      have notSeparator : (character == separator) = false := beq_false_of_ne fun same =>
        differs same.symm
      rw [List.cons_append, Text.pieces, notSeparator, inductionHypothesis furtherPlain]
      rfl

/-! ## Entries -/

theorem toList_startTag (tag : String) :
    (startTag tag []).toList = '<' :: tagPiece tag.toList [] := by
  have marks : "<".toList = ['<'] ∧ ">".toList = ['>'] := by decide
  rw [startTag, List.map_nil, String.join_nil, String.toList_append, String.toList_append,
    String.toList_append, marks.1, marks.2, tagPiece, String.toList_empty, List.append_nil,
    List.singleton_append, List.cons_append]

theorem toList_endTag (tag : String) :
    (endTag tag).toList = '<' :: tagPiece ('/' :: tag.toList) [] := by
  have marks : "</".toList = ['<', '/'] ∧ ">".toList = ['>'] := by decide
  rw [endTag, String.toList_append, String.toList_append, marks.1, marks.2, tagPiece]
  rfl

/-- A line break and the blanks at the head of the next line. -/
def lineStart (level : Nat) : List Char :=
  '\n' :: (indentation level).toList

/-- The pieces of the element of an entry, but for the last one. -/
def entryPieces (entry : SitemapEntry) : List (List Char) :=
  [ (indentation 2).toList, tagPiece "url".toList (lineStart 4),
    tagPiece "loc".toList (renderPieces [.anywhere entry.url]).toList,
    tagPiece ('/' :: "loc".toList) (lineStart 4), tagPiece lastmodTag entry.lastmod.toList,
    tagPiece ('/' :: lastmodTag) (lineStart 4),
    tagPiece "priority".toList entry.priority.onePlaceText.toList,
    tagPiece ('/' :: "priority".toList) (lineStart 2) ]

theorem toList_element (entry : SitemapEntry) :
    (indentation 2 ++ entry.element.renderAt 2 ++ "\n").toList =
      (entryPieces entry).flatMap (· ++ ['<']) ++ tagPiece ('/' :: "url".toList) ['\n'] := by
  have lineBreak : "\n".toList = ['\n'] := by decide
  have lastmod : "lastmod".toList = lastmodTag := by decide
  simp only [SitemapEntry.element, Html.renderAt, Html.renderLines, Html.renderInline,
    String.toList_append, toList_startTag, toList_endTag, lineBreak, lastmod, tagPiece, entryPieces,
    lineStart, List.flatMap_cons, List.flatMap_nil, List.append_assoc, List.cons_append,
    List.nil_append, String.toList_empty, List.append_nil]

/-- The text of some entries and of the end of a sitemap. -/
def entriesText (entries : List SitemapEntry) : List Char :=
  (Html.renderLines 2 (entries.map SitemapEntry.element)).toList ++
    '<' :: tagPiece ('/' :: "urlset".toList) ['\n']

/-- Whether the time and the priority of an entry hold no bracket. -/
def SitemapEntry.IsPlain (entry : SitemapEntry) : Prop :=
  '<' ∉ entry.lastmod.toList ∧ '<' ∉ entry.priority.onePlaceText.toList

/-- Whatever its priority, an entry is plain if its time holds no bracket. -/
theorem isPlain_of_lastmod {entry : SitemapEntry} (lastmodPlain : '<' ∉ entry.lastmod.toList) :
    entry.IsPlain :=
  ⟨lastmodPlain, fun member =>
    absurd (Binary64.mem_onePlaceText member) (by decide)⟩

theorem less_not_mem_entryPieces {entry : SitemapEntry} (plain : entry.IsPlain) :
    ∀ piece ∈ entryPieces entry, '<' ∉ piece := by
  have url : '<' ∉ (renderPieces [.anywhere entry.url]).toList :=
    less_not_mem_renderPieces rfl
  have tagged {tag behind : List Char} (tagPlain : '<' ∉ tag) (behindPlain : '<' ∉ behind) :
      '<' ∉ tagPiece tag behind := by
    simp [tagPiece, tagPlain, behindPlain]
  simp only [entryPieces, List.forall_mem_cons, List.not_mem_nil, false_implies, implies_true,
    and_true]
  exact ⟨by decide, tagged (by decide) (by decide), tagged (by decide) url,
    tagged (by decide) (by decide), tagged (by decide) plain.1, tagged (by decide) (by decide),
    tagged (by decide) plain.2, tagged (by decide) (by decide)⟩

/-- One entry ahead of others adds its pieces, the last of which goes on up to the next bracket. -/
theorem pieces_entriesText_cons {entry : SitemapEntry} (plain : entry.IsPlain)
    {entries : List SitemapEntry} {first : List Char} {others : List (List Char)}
    (isRest : Text.pieces '<' (entriesText entries) = first :: others) :
    Text.pieces '<' (entriesText (entry :: entries)) =
      entryPieces entry ++ tagPiece ('/' :: "url".toList) ('\n' :: first) :: others := by
  have isText : entriesText (entry :: entries) = (entryPieces entry).flatMap (· ++ ['<']) ++
      (tagPiece ('/' :: "url".toList) ['\n'] ++ entriesText entries) := by
    rw [← List.append_assoc, ← toList_element, entriesText, entriesText, List.map_cons,
      Html.renderLines, String.toList_append, List.append_assoc]
  have ending : tagPiece ('/' :: "url".toList) ['\n'] ++ first =
      tagPiece ('/' :: "url".toList) ('\n' :: first) := by
    rw [tagPiece, tagPiece, List.append_assoc]
    rfl
  rw [isText, pieces_flatMap_append (less_not_mem_entryPieces plain),
    pieces_plain_append (by decide) isRest, ending]

/-! ## The head of a sitemap -/

/-- The text of a sitemap ahead of its entries. -/
def sitemapHead : String :=
  "<?xml version=\"1.0\" encoding=\"UTF-8\"?>" ++ "\n" ++
    startTag "urlset" [.fixed "xmlns" "http://www.sitemaps.org/schemas/sitemap/0.9"] ++ "\n"

/-- Two lines of which the second is a block of markup. -/
theorem toList_endLines_block (line tag : String) (attributes : List Attribute)
    (children : List Html) :
    (Text.endLines [line, (Html.block 2 tag attributes children).render]).toList =
      (line ++ "\n" ++ startTag tag attributes ++ "\n").toList ++
        ((Html.renderLines 2 children).toList ++ '<' :: tagPiece ('/' :: tag.toList) ['\n']) := by
  have lineBreak : "\n".toList = ['\n'] := by decide
  have noIndentation : (indentation 0).toList = [] := by decide
  simp only [Text.toList_endLines, Html.render, Html.renderAt, List.flatMap_cons, List.flatMap_nil,
    String.toList_append, toList_endTag, lineBreak, noIndentation, tagPiece, List.append_assoc,
    List.nil_append, List.cons_append, Nat.zero_add]

theorem toList_sitemapText (entries : List SitemapEntry) :
    (sitemapText entries).toList = sitemapHead.toList ++ entriesText entries :=
  toList_endLines_block _ _ _ _

/-- The declaration at the head of a sitemap, behind its bracket. -/
def declarationPiece : List Char :=
  "?xml version=\"1.0\" encoding=\"UTF-8\"?>\n".toList

/-- The start tag of a sitemap between its brackets. -/
def sitemapTag : List Char :=
  "urlset xmlns=\"http://www.sitemaps.org/schemas/sitemap/0.9\"".toList

theorem toList_declarationLine :
    "<?xml version=\"1.0\" encoding=\"UTF-8\"?>".toList ++ ['\n'] = '<' :: declarationPiece := by
  have line : "<?xml version=\"1.0\" encoding=\"UTF-8\"?>".toList = _ := String.toList_ofList
  have piece : declarationPiece = _ := String.toList_ofList
  rw [line, piece]
  rfl

theorem toList_sitemapStart :
    (startTag "urlset" [.fixed "xmlns" "http://www.sitemaps.org/schemas/sitemap/0.9"]).toList =
      '<' :: sitemapTag ++ ['>'] := by
  have ofParts : startTag "urlset" [.fixed "xmlns" "http://www.sitemaps.org/schemas/sitemap/0.9"] =
      "<" ++ "urlset xmlns=\"http://www.sitemaps.org/schemas/sitemap/0.9\"" ++ ">" := by
    decide
  have between (text : String) : ("<" ++ text ++ ">").toList = '<' :: text.toList ++ ['>'] := by
    simp [String.toList_append]
  rw [ofParts, between]
  rfl

theorem toList_sitemapHead :
    sitemapHead.toList =
      [[], declarationPiece].flatMap (· ++ ['<']) ++ tagPiece sitemapTag ['\n'] := by
  have lineBreak : "\n".toList = ['\n'] := by decide
  unfold sitemapHead
  simp only [String.toList_append, lineBreak, toList_declarationLine, toList_sitemapStart, tagPiece,
    List.flatMap_cons, List.flatMap_nil, List.nil_append, List.append_assoc, List.cons_append]

/-- The declaration and the start tag of a sitemap hold no brackets but their own. -/
theorem headPieces_plain :
    (∀ piece ∈ [[], declarationPiece], '<' ∉ piece) ∧ '<' ∉ tagPiece sitemapTag ['\n'] ∧
      '>' ∉ sitemapTag := by
  have declaration : declarationPiece = _ := String.toList_ofList
  have isTag : sitemapTag = _ := String.toList_ofList
  rw [declaration, isTag]
  decide

/-- The pieces of a sitemap are those of its head and those of its entries. -/
theorem pieces_sitemapText {entries : List SitemapEntry} {first : List Char}
    {others : List (List Char)} (isRest : Text.pieces '<' (entriesText entries) = first :: others) :
    Text.pieces '<' (sitemapText entries).toList =
      [[], declarationPiece] ++ tagPiece sitemapTag ('\n' :: first) :: others := by
  obtain ⟨headPlain, tagPlain, -⟩ := headPieces_plain
  have ending : tagPiece sitemapTag ['\n'] ++ first = tagPiece sitemapTag ('\n' :: first) := by
    rw [tagPiece, tagPiece, List.append_assoc]
    rfl
  rw [toList_sitemapText, toList_sitemapHead, List.append_assoc, pieces_flatMap_append headPlain,
    pieces_plain_append tagPlain isRest, ending]

end StaticSite.Site
