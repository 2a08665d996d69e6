import StaticSite.Component.Definition

/-!
Contract: the image component, a picture with an optional caption.

Owns:
- the picture, its alternative text and its caption; the picture is required.

Does not own: the container around the markup (see `StaticSite.Emission.Container`).
-/

namespace StaticSite.Component.Image

open StaticSite.Markup StaticSite.Schema

def fields : List Field :=
  [linkField "src" "src" "", textField "alt" "alt" "", textField "caption" "caption" ""]

def markup : Template :=
  .block "figure" [attr "class" "image-container"]
    [ .void "img"
        [ slot "src" "src",
          slot "alt" "alt",
          attr "class" "responsive-image",
          attr "loading" "lazy" ],
      .inline "caption" [.element "figcaption" [attr "class" "image-caption"] [field "caption"]] ]

def style : List Style.Rule :=
  [ .compact [".responsive-image"]
      [⟨"max-width", "100%"⟩, ⟨"height", "auto"⟩, ⟨"display", "block"⟩],
    .compact [".image-caption"]
      [⟨"font-size", "0.9rem"⟩, ⟨"color", "#666"⟩, ⟨"margin-top", "8px"⟩] ]

def definition : Definition :=
  { type := "image"
    fields := fields
    markup := markup
    style := style
    required := ["src"] }

end StaticSite.Component.Image
