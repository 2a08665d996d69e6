import StaticSite.Proofs.Markup.IdTree
import StaticSite.Proofs.Markup.Origin
import StaticSite.Proofs.Text.Split
import StaticSite.Proofs.Url.Scheme

/-!
Contract: the links in the start tags of a document.

Owns:
- the attributes whose value is an address, addresses in a style, and the addresses of preview
  images;
- start tags all of whose links are safe;
- templates that put nothing but safe values, or what is behind a known beginning, into the place of
  a link.

Does not own: which values are safe (see `StaticSite.Proofs.Schema.Link`).
-/

namespace StaticSite.Markup

open StaticSite.Url

/-! ## Links of start tags -/

def addressAttributes : List String := ["href", "src", "poster"]

/-- The pieces of a text that stand behind a piece that ends with the beginning of an address. -/
def addressesAmong : List String → List String
  | before :: quoted :: others =>
      (if "url(".toList.isSuffixOf before.toList then [quoted] else []) ++
        addressesAmong (quoted :: others)
  | _ => []

/-- The addresses in single quotes in a style. -/
def styleAddresses (style : String) : List String :=
  addressesAmong (Text.splitAt '\'' style)

/-- The links in a style; a style that is not read counts as one. -/
def styleLinks : Option String → List (Option String)
  | some style => (styleAddresses style).map some
  | none => [none]

/-- The attributes that make a piece of metadata that of a preview image. -/
def previewMarks : List (String × String) :=
  [("property", "og:image"), ("name", "twitter:image")]

/-- Whether a start tag has an attribute with a value. -/
def StartTag.has (tag : StartTag) (entry : String × String) : Bool :=
  tag.attributes.contains (entry.1, some entry.2)

/-- A start tag has an attribute with a value if one of this name that means this value is written
in it. -/
theorem exists_of_has {opening : Opening} {entry : String × String}
    (has : opening.read.has entry = true) :
    ∃ name pieces, .valued name pieces ∈ opening.attributes ∧
      foldedName name.toList = entry.1 ∧ valueOf? pieces = some entry.2 := by
  obtain ⟨written, isWritten, isRead⟩ := List.mem_flatMap.mp (List.contains_iff_mem.mp has)
  cases written with
  | bare name => cases isRead
  | valued name pieces =>
      obtain ⟨sameName, sameValue⟩ := Prod.mk.inj (List.mem_singleton.mp isRead)
      exact ⟨name, pieces, isWritten, sameName.symm, sameValue.symm⟩

/-- Whether a start tag is the link to the canonical address of a page. -/
def StartTag.isCanonical (tag : StartTag) : Bool :=
  tag.name == "link" && tag.has ("rel", "canonical")

/-- Whether a start tag is that of a preview image. -/
def StartTag.isPreview (tag : StartTag) : Bool :=
  tag.name == "meta" && previewMarks.any tag.has

/-- The links in one attribute of a start tag; a link that is not read counts as one, too. -/
def StartTag.linksOf (tag : StartTag) : String × Option String → List (Option String)
  | (name, value) =>
      if name ∈ addressAttributes then
        if tag.isCanonical then [] else [value]
      else if name = "style" then
        styleLinks value
      else if name = "content" ∧ tag.isPreview = true then
        [value]
      else
        []

/-- The links of a start tag, but for that to the canonical address of the page. -/
def StartTag.links (tag : StartTag) : List (Option String) :=
  tag.attributes.flatMap tag.linksOf

/-- Whether all links of a start tag are read and safe. -/
def StartTag.LinksSafely (tag : StartTag) : Prop :=
  ∀ link ∈ tag.links, ∃ address, link = some address ∧ IsSafe address

/-- Whether an attribute has no links but such as are read and safe, as long as it is no
metadata. -/
def Attribute.LinksSafely : Attribute → Prop
  | .bare _ => True
  | .valued name pieces =>
      (foldedName name.toList ∈ addressAttributes →
        ∃ address, valueOf? pieces = some address ∧ IsSafe address) ∧
      (foldedName name.toList = "style" →
        ∃ style, valueOf? pieces = some style ∧ ∀ address ∈ styleAddresses style, IsSafe address)

/-- A start tag links safely if its attributes do, and its content if it is that of a preview
image. -/
theorem linksSafely_of_attributes {tag : String} {attributes : List Attribute}
    (safely : ∀ written ∈ attributes, written.LinksSafely)
    (preview : (Opening.read ⟨tag, attributes⟩).isPreview = true → ∀ name pieces,
      Attribute.valued name pieces ∈ attributes → foldedName name.toList = "content" →
        ∃ address, valueOf? pieces = some address ∧ IsSafe address) :
    (Opening.read ⟨tag, attributes⟩).LinksSafely := by
  intro link member
  obtain ⟨entry, isEntry, isLink⟩ := List.mem_flatMap.mp member
  obtain ⟨written, isWritten, isRead⟩ := List.mem_flatMap.mp isEntry
  cases written with
  | bare name => cases isRead
  | valued name pieces =>
      have holds := safely _ isWritten
      rw [List.mem_singleton.mp isRead, StartTag.linksOf] at isLink
      split at isLink
      · rename_i isAddress
        split at isLink
        · cases isLink
        · rw [List.mem_singleton.mp isLink]
          exact holds.1 isAddress
      · split at isLink
        · rename_i isStyle
          obtain ⟨style, isRead, safe⟩ := holds.2 isStyle
          rw [isRead, styleLinks] at isLink
          obtain ⟨address, isAddress, rfl⟩ := List.mem_map.mp isLink
          exact ⟨address, rfl, safe address isAddress⟩
        · split at isLink
          · rename_i isContent
            rw [List.mem_singleton.mp isLink]
            exact preview isContent.2 name pieces isWritten isContent.1
          · cases isLink

theorem linksSafely_of_not_meta {tag : String} (notMeta : foldedName tag.toList ≠ "meta")
    {attributes : List Attribute} (safely : ∀ written ∈ attributes, written.LinksSafely) :
    (Opening.read ⟨tag, attributes⟩).LinksSafely := by
  refine linksSafely_of_attributes safely fun isPreview => ?_
  rw [StartTag.isPreview, Opening.read, beq_eq_false_iff_ne.mpr notMeta] at isPreview
  cases isPreview

theorem Attribute.linksSafely_of_name {name : String}
    (noLink : foldedName name.toList ∉ "style" :: addressAttributes) (pieces : List Piece) :
    (Attribute.valued name pieces).LinksSafely := by
  rw [List.mem_cons, not_or] at noLink
  exact ⟨fun isAddress => absurd isAddress noLink.2, fun isStyle => absurd isStyle noLink.1⟩

/-- An attribute that is no style links safely if its value is a safe address. -/
theorem Attribute.linksSafely_of_isSafe {name : String} (notStyle : foldedName name.toList ≠ "style")
    {pieces : List Piece} {address : String} (isValue : valueOf? pieces = some address)
    (safe : IsSafe address) : (Attribute.valued name pieces).LinksSafely :=
  ⟨fun _ => ⟨address, isValue, safe⟩, fun isStyle => absurd isStyle notStyle⟩

/-- Metadata with a content links safely if it is no preview image or its content is a safe
address. -/
theorem linksSafely_meta {kind name : String} {pieces : List Piece}
    (noLink : foldedName kind.toList ∉ "style" :: addressAttributes)
    (noEntity : '&' ∉ name.toList)
    (safe : (foldedName kind.toList, name) ∈ previewMarks →
      ∃ address, valueOf? pieces = some address ∧ IsSafe address)
    (notContent : foldedName kind.toList ≠ "content") :
    (Opening.read ⟨"meta", [.fixed kind name, .valued "content" pieces]⟩).LinksSafely := by
  have contentName : foldedName "content".toList = "content" := by decide
  refine linksSafely_of_attributes ?_ fun isPreview found others member isContent => ?_
  · exact List.forall_mem_cons.mpr ⟨Attribute.linksSafely_of_name noLink _,
      List.forall_mem_singleton.mpr (Attribute.linksSafely_of_name (by decide) _)⟩
  · rw [StartTag.isPreview, Bool.and_eq_true, List.any_eq_true] at isPreview
    obtain ⟨mark, isMark, has⟩ := isPreview.2
    have notContentMark : ∀ mark ∈ previewMarks, mark.1 ≠ "content" := by decide
    have isKind : mark = (foldedName kind.toList, name) := by
      rw [StartTag.has, List.contains_iff_mem, Opening.read, List.flatMap_cons,
        read_fixed kind noEntity, List.singleton_append, List.mem_cons] at has
      rcases has with isFirst | isSecond
      · obtain ⟨sameKind, sameName⟩ := Prod.mk.inj isFirst
        exact Prod.ext sameKind (Option.some.inj sameName)
      · simp only [List.flatMap_cons, Attribute.read, List.flatMap_nil, List.append_nil,
          List.mem_singleton, contentName] at isSecond
        exact absurd (Prod.mk.inj isSecond).1 (notContentMark mark isMark)
    rcases List.mem_cons.mp member with isFirst | isSecond
    · obtain ⟨rfl, _⟩ := Attribute.valued.inj isFirst
      exact absurd isContent notContent
    · obtain ⟨_, rfl⟩ := Attribute.valued.inj (List.mem_singleton.mp isSecond)
      exact safe (isKind ▸ isMark)

/-! ## Addresses in styles -/

/-- A style with one address in quotes that are not part of it has this address, and behind it at
most what closes it. -/
theorem mem_styleAddresses {before address found : String}
    (plain : '\'' ∉ before.toList) (noQuote : '\'' ∉ address.toList)
    (member : found ∈ styleAddresses (before ++ "'" ++ address ++ "')")) :
    found = address ∨ found = ")" := by
  have joined : before ++ "'" ++ address ++ "')" = "'".intercalate [before, address, ")"] := by
    rw [← String.toList_inj, String.toList_intercalate]
    simp [List.intercalate]
  have pieces : Text.splitAt '\'' ("'".intercalate [before, address, ")"]) =
      [before, address, ")"] :=
    Text.splitAt_intercalate rfl (by simp) (by simp [plain, noQuote])
  rw [styleAddresses, joined, pieces] at member
  simp only [addressesAmong, List.append_nil, List.mem_append] at member
  rcases member with first | second
  · split at first
    · exact Or.inl (List.mem_singleton.mp first)
    · cases first
  · split at second
    · exact Or.inr (List.mem_singleton.mp second)
    · cases second

/-! ## Links of templates -/

/-- Whether the parts of an address are one of some named values, or begin with a literal text
that settles the scheme. -/
def holdsAddress (names : List String) : List Part → Bool
  | [.value name] => names.contains name
  | .literal beginning :: others =>
      !beginning.toList.contains '&' && beginsSafely beginning.toList &&
        (literalsOf others).all fun literal => Text.hasKnownEntities literal.toList
  | _ => false

/-- Whether the parts of a style set one of some named values as background image. -/
def holdsBackground (names : List String) : List Part → Bool
  | [.literal before, .value name, .literal closing] =>
      before == "background-image: url('" && names.contains name && closing == "')"
  | _ => false

/-- Whether an attribute with places for values has no links but such as are known to be safe. -/
def assignsSafely (names : List String) : String × List Part → Bool
  | (name, parts) =>
      isFoldedName name && (!addressAttributes.contains name || holdsAddress names parts) &&
        (name != "style" || holdsBackground names parts)

/-- Whether a start tag with places for values has no links but such as are known to be safe. -/
def TagTemplate.assignsSafely (names : List String) (template : TagTemplate) : Bool :=
  isFoldedName template.tag && template.tag != "meta" &&
    (assignmentsOf template.attributes).all (Markup.assignsSafely names)

section Known

variable {names : List String} {scopes : Scopes}
  (known : ∀ name ∈ names, IsEmbeddable (filledText (scopes.lookup name)))
include known

theorem exists_isSafe_of_holdsAddress {parts : List Part}
    (holds : holdsAddress names parts = true) :
    ∃ address, valueOf? (fillParts scopes parts) = some address ∧ IsSafe address := by
  unfold holdsAddress at holds
  split at holds
  · rename_i name
    refine ⟨filledText (scopes.lookup name), ?_, (known name (List.contains_iff_mem.mp holds)).isSafe⟩
    rw [valueOf?_eq (by simp [fillParts, Part.fill])]
    simp [fillParts, Part.fill, Piece.meaning]
  · rename_i beginning others
    rw [Bool.and_eq_true, Bool.and_eq_true, Bool.not_eq_true', List.all_eq_true] at holds
    obtain ⟨⟨noAmpersand, begins⟩, entitiesLater⟩ := holds
    have noEntity : '&' ∉ beginning.toList := fun member => by
      rw [List.contains_iff_mem.mpr member] at noAmpersand
      cases noAmpersand
    have isText : (renderPieces (fillParts scopes (.literal beginning :: others))).toList =
        beginning.toList ++ (renderPieces (fillParts scopes others)).toList := by
      rw [fillParts, Part.fill, List.singleton_append, renderPieces, List.map_cons,
        String.join_cons, String.toList_append]
      rfl
    have knownEntities := Text.hasKnownEntities_append (Text.hasKnownEntities_of_not_mem noEntity)
      (hasKnownEntities_renderPieces fun text member =>
        entitiesLater text (mem_literalsOf_of_mem_fillParts others scopes member))
    rw [valueOf?, meaning?, isText, if_pos knownEntities,
      Text.decodeEntities_append_of_not_mem noEntity]
    exact ⟨_, rfl, isSafe_of_beginsSafely _ begins String.toList_ofList⟩
  · cases holds

theorem exists_isSafe_of_holdsBackground {parts : List Part}
    (holds : holdsBackground names parts = true) :
    ∃ style, valueOf? (fillParts scopes parts) = some style ∧
      ∀ address ∈ styleAddresses style, IsSafe address := by
  unfold holdsBackground at holds
  split at holds
  · rename_i before name closing
    rw [Bool.and_eq_true, Bool.and_eq_true, beq_iff_eq, beq_iff_eq] at holds
    obtain ⟨⟨rfl, isKnown⟩, rfl⟩ := holds
    have embeddable := known name (List.contains_iff_mem.mp isKnown)
    refine ⟨"background-image: url(" ++ "'" ++ filledText (scopes.lookup name) ++ "')", ?_, ?_⟩
    · exact valueOf?_between (by decide) (by decide) (filledText (scopes.lookup name))
    · intro address member
      rcases mem_styleAddresses (by decide) embeddable.noQuote member with rfl | rfl
      · exact embeddable.isSafe
      · exact isSafe_of_beginsSafely ")".toList (by decide) (List.append_nil _).symm
  · cases holds

theorem linksSafely_of_assignsSafely {name : String} {parts : List Part}
    (safely : assignsSafely names (name, parts) = true) :
    (Attribute.valued name (fillParts scopes parts)).LinksSafely := by
  rw [assignsSafely, Bool.and_eq_true, Bool.and_eq_true, Bool.or_eq_true, Bool.or_eq_true] at safely
  obtain ⟨⟨folded, address⟩, style⟩ := safely
  rw [Attribute.LinksSafely, foldedName_of_isFoldedName folded]
  constructor
  · intro isAddress
    rcases address with isOther | holds
    · rw [List.contains_iff_mem.mpr isAddress] at isOther
      cases isOther
    · exact exists_isSafe_of_holdsAddress known holds
  · intro isStyle
    rcases style with isOther | holds
    · exact absurd isStyle (bne_iff_ne.mp isOther)
    · exact exists_isSafe_of_holdsBackground known holds

end Known

/-- A start tag that comes from templates links safely if the templates put nothing but safe values
into the places of links. -/
theorem linksSafely_of_comesFrom {names : List String} {scopes : Scopes} {tags : List TagTemplate}
    (assigns : ∀ template ∈ tags, template.assignsSafely names = true)
    (known : ∀ inner, Reaches scopes inner → ∀ name ∈ names,
      IsEmbeddable (filledText (inner.lookup name)))
    {opening : Opening} (comes : opening.ComesFrom scopes tags) : opening.read.LinksSafely := by
  cases comes with
  | @filled template inner isTag reaches =>
      have safely := assigns template isTag
      rw [TagTemplate.assignsSafely, Bool.and_eq_true, Bool.and_eq_true, bne_iff_ne,
        List.all_eq_true] at safely
      obtain ⟨⟨folded, notMeta⟩, attributesSafely⟩ := safely
      have notMetaFolded : foldedName template.tag.toList ≠ "meta" := by
        rwa [foldedName_of_isFoldedName folded]
      refine linksSafely_of_not_meta notMetaFolded fun written member => ?_
      have origin := comesFrom_of_mem_fillAttributes template.attributes inner written member
      cases origin with
      | bare name => trivial
      | @valued _ parts inside isAssigned reachesOn =>
          exact linksSafely_of_assignsSafely (known inside (reaches.trans reachesOn))
            (attributesSafely _ isAssigned)

end StaticSite.Markup
