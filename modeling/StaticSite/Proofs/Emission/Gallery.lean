import StaticSite.Proofs.Emission.Derivation
import StaticSite.Proofs.Emission.StartTag
import StaticSite.Proofs.Markup.Alike
import StaticSite.Proofs.Markup.Link

/-!
Contract: the pictures of a gallery, one for each record of the list that is stored.

Owns:
- the sources that the records of a gallery give, and the values with them;
- the pictures in a text of markup;
- the law that a gallery is rendered, and shows the source of each record in order.

Does not own: which of the pictures can wait (see `StaticSite.Island.Hint`).
-/

namespace StaticSite.Emission

open StaticSite.Component StaticSite.Markup StaticSite.Schema

/-! ## The values of a gallery -/

/-- The records of the pictures of a gallery. -/
def pictureRecords (node : Node) : List Json.Members :=
  match node.prop "images" with
  | .array items => recordsIn items
  | _ => []

/-- The value stored under a key of a record. -/
def storedIn (record : Json.Members) (key : String) : Json :=
  (record.lookup key).getD .null

/-- The address of the picture of a record; empty if it gives none. -/
def pictureAddress (record : Json.Members) : String :=
  if textOf (storedIn record "src") == "" then "" else Url.safe (textOf (storedIn record "src"))

/-- The text under a key of a record; empty if it gives none. -/
def pictureText (record : Json.Members) (key : String) : String :=
  if textOf (storedIn record key) == "" then "" else textOf (storedIn record key)

/-- The values of the picture of a record. -/
def pictureValues (record : Json.Members) : Json.Members :=
  [ ("src", .text (pictureAddress record)), ("alt", .text (pictureText record "alt")),
    ("caption", .text (pictureText record "caption")) ]

theorem coerceFields_picture (record : Json.Members) :
    coerceFields record Gallery.imageFields = .ok (pictureValues record) :=
  coerceFields_cons (coerce_linkField record "src" "src" "") <|
    coerceFields_cons (coerce_textField record "alt" "alt" "") <|
    coerceFields_cons (coerce_textField record "caption" "caption" "") rfl

/-- The values of a gallery: its pictures, whatever is stored in the place of their list. -/
theorem coerceFields_gallery (node : Node) :
    coerceFields node.props Gallery.fields =
      .ok [("images", .array ((pictureRecords node).map (.object ∘ pictureValues)))] := by
  have arePictures (records : List Json.Members) :
      records.mapM (fun record => (coerceFields record Gallery.imageFields).map Json.object) =
        .ok (records.map (.object ∘ pictureValues)) := by
    simp only [coerceFields_picture, Except.map]
    exact List.mapM_pure
  have isList : (recordsField "images" "images" Gallery.imageFields).coerce node.props =
      .ok ("images", .array ((pictureRecords node).map (.object ∘ pictureValues))) := by
    rw [recordsField, Field.coerce, pictureRecords, Node.prop]
    cases (node.props.lookup "images").getD .null with
    | array items =>
        rw [Kind.coerce, arePictures]
        rfl
    | _ => rfl
  exact coerceFields_cons isList rfl

/-! ## The markup of a gallery -/

/-- The start tags of a gallery around its pictures. -/
def galleryFrame : List Opening :=
  [ ⟨"div", [.fixed "class" "gallery-container"]⟩, ⟨"div", [.fixed "class" "gallery-grid"]⟩ ]

/-- The start tags of a picture in the scope of its values. -/
def pictureOpenings (scopes : Scopes) : List Opening :=
  [ ⟨"div",
      [ .fixed "class" "gallery-item",
        .valued "data-index" [.content (filledText (scopes.lookup "index"))] ]⟩,
    ⟨"img",
      [ .valued "src" [.content (filledText (scopes.lookup "src"))],
        .valued "alt" [.content (filledText (scopes.lookup "alt"))],
        .fixed "class" "gallery-image",
        .valued "loading"
          (fillParts scopes [.present "first" ["eager"], .absent "first" ["lazy"]]) ]⟩ ] ++
    (scopes.enter (scopes.lookup "caption")).flatMap fun _ =>
      [⟨"p", [.fixed "class" "gallery-caption"]⟩]

theorem openings_gallery (scopes : Scopes) :
    Html.openingsOf (Gallery.markup.fill scopes) =
      galleryFrame ++ (scopes.enter (scopes.lookup "images")).flatMap pictureOpenings := by
  simp only [Gallery.markup, Template.fill, fillLines, fillInline, Html.openingsOf, Html.openings,
    attr, slot, field, fillAttributes, AttributeTemplate.fill, List.append_nil,
    Html.openingsOf_flatMap]
  rfl

/-- Whether a start tag is that of a picture of a gallery. -/
def isPicture (tag : StartTag) : Bool :=
  tag.has ("class", "gallery-image")

/-- The sources of the pictures of galleries in a text of markup. -/
def pictureSources (html : String) : List (Option String) :=
  ((startTags html).filter isPicture).map (·.value? "src")

theorem isPicture_frame : ∀ opening ∈ galleryFrame, isPicture opening.read = false := by
  decide +kernel

theorem not_isPicture_item (index : String) :
    isPicture (Opening.read ⟨"div",
      [.fixed "class" "gallery-item", .valued "data-index" [.content index]]⟩) = false := by
  refine Bool.not_eq_true _ ▸ fun isOne => ?_
  obtain ⟨name, pieces, member, isClass, isValue⟩ := exists_of_has isOne
  rcases List.mem_cons.mp member with isItem | isOther
  · rw [(Attribute.valued.inj isItem).2, valueOf?_literal (by decide)] at isValue
    exact absurd (Option.some.inj isValue) (by decide)
  · rw [(Attribute.valued.inj (List.mem_singleton.mp isOther)).1] at isClass
    exact absurd isClass (by decide)

theorem isPicture_image {attributes : List Attribute}
    (member : .fixed "class" "gallery-image" ∈ attributes) :
    isPicture (Opening.read ⟨"img", attributes⟩) = true := by
  have names : foldedName "class".toList = "class" := by decide
  refine List.contains_iff_mem.mpr (List.mem_flatMap.mpr ⟨_, member, ?_⟩)
  rw [read_fixed "class" (by decide), names]
  exact List.mem_singleton_self _

/-- The only picture among the start tags of one has the source in its scope. -/
theorem pictures_picture {scopes : Scopes} {address : String}
    (isAddress : scopes.lookup "src" = .text address) :
    (((pictureOpenings scopes).map Opening.read).filter isPicture).map (·.value? "src") =
      [some address] := by
  have isCaption : isPicture (Opening.read ⟨"p", [.fixed "class" "gallery-caption"]⟩) = false := by
    decide +kernel
  have noCaption (entered : List Scopes) :
      ((entered.flatMap fun _ => [Opening.mk "p" [.fixed "class" "gallery-caption"]]).map
        Opening.read).filter isPicture = [] := by
    refine filter_read_eq_nil fun opening member => ?_
    obtain ⟨-, -, isOpening⟩ := List.mem_flatMap.mp member
    rw [List.mem_singleton.mp isOpening, isCaption]
  have isSource (others : List Attribute) :
      (Opening.read ⟨"img", .valued "src" [.content address] :: others⟩).value? "src" =
        some address := by
    rw [value?_of_read "img" "src" "src" others (read_content "src" address), if_pos (by decide)]
  have isText : filledText (.text address) = address := rfl
  rw [pictureOpenings, isAddress, isText, List.map_append, List.filter_append, noCaption,
    List.append_nil, List.map_cons, List.filter_cons_of_neg (by simp [not_isPicture_item]),
    List.map_singleton, List.filter_cons_of_pos (isPicture_image (by simp)), List.filter_nil,
    List.map_singleton, isSource]

theorem isPicture_container {node : Node} (isGallery : node.type = "gallery") :
    isPicture (containerTag node) = false := by
  rw [isPicture, StartTag.has, containerTag, isGallery]
  simp

/-- The scope of a picture with its position. -/
def pictureScope (entry : Json.Members × Nat) : Json :=
  .object (addPosition entry.2 (pictureValues entry.1))

theorem lookup_pictureScope (entry : Json.Members × Nat) (scopes : Scopes) :
    Scopes.lookup (pictureScope entry :: scopes) "src" = .text (pictureAddress entry.1) := by
  have found : (addPosition entry.2 (pictureValues entry.1)).lookup "src" =
      some (.text (pictureAddress entry.1)) := by
    rw [addPosition, Association.lookup_bind_of_ne (by decide),
      Association.lookup_bind_of_ne (by decide), Association.lookup_bind_of_ne (by decide)]
    rfl
  rw [Scopes.lookup, List.findSome?_cons, pictureScope, Json.member?, found]
  rfl

theorem withPositions_pictures (records : List Json.Members) :
    withPositions (records.map (.object ∘ pictureValues)) = records.zipIdx.map pictureScope := by
  rw [withPositions, List.zipIdx_map, List.map_map]
  exact List.map_congr_left fun entry _ => rfl

/-- The pictures among the start tags of a gallery. -/
theorem pictures_gallery (records : List Json.Members) {scopes : Scopes}
    (isList : scopes.lookup "images" = .array (records.zipIdx.map pictureScope)) :
    (((Html.openingsOf (Gallery.markup.fill scopes)).map Opening.read).filter isPicture).map
        (·.value? "src") =
      records.map fun record => some (pictureAddress record) := by
  rw [openings_gallery, isList, List.map_append, List.filter_append,
    filter_read_eq_nil isPicture_frame, List.nil_append, Scopes.enter, List.map_map,
    List.flatMap_map, List.map_flatMap, List.filter_flatMap, List.map_flatMap]
  simp only [Function.comp_def, pictures_picture (lookup_pictureScope _ scopes)]
  rw [← List.map_eq_flatMap]
  conv_rhs => rw [← List.zipIdx_map_fst 0 records, List.map_map]
  rfl

/-- A gallery is rendered, and shows the picture of each of its records. -/
theorem exists_emit_gallery {node : Node} (isGallery : node.type = "gallery") :
    ∃ fragment, Emitter.builtIn.emit node = .ok fragment ∧
      pictureSources fragment.body.render =
        (pictureRecords node).map fun record => some (pictureAddress record) := by
  have coerced := coerceFields_gallery node
  generalize isValues :
    [("images", Json.array ((pictureRecords node).map (.object ∘ pictureValues)))] = values at coerced
  have isList : Scopes.lookup [Gallery.definition.scope node values] "images" =
      .array ((pictureRecords node).zipIdx.map pictureScope) := by
    rw [← withPositions_pictures, ← isValues]
    rfl
  have arePictures : (((Html.openingsOf (Gallery.definition.markup.fill
      [Gallery.definition.scope node values])).map Opening.read).filter isPicture).map _ = _ :=
    pictures_gallery _ isList
  have isDefinition : Gallery.definition ∈ catalogue := by simp [catalogue]
  obtain ⟨fragment, emitted, tags⟩ := exists_emit_of_coerced isDefinition rfl isGallery coerced
  refine ⟨fragment, emitted, ?_⟩
  rw [pictureSources, tags, List.filter_cons_of_neg (by simp [isPicture_container isGallery]),
    arePictures]

end StaticSite.Emission
