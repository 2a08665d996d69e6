import StaticSite.Component.Definition

/-!
Contract: the gallery component, pictures in a grid.

Owns:
- the pictures, of which only the first is loaded at once;
- the script that shows a picture large.

Does not own: the container around the markup (see `StaticSite.Emission.Container`).
-/

namespace StaticSite.Component.Gallery

open StaticSite.Markup StaticSite.Schema

def imageFields : List Field :=
  [linkField "src" "src" "", textField "alt" "alt" "", textField "caption" "caption" ""]

def fields : List Field :=
  [recordsField "images" "images" imageFields]

def markup : Template :=
  .block "div" [attr "class" "gallery-container"]
    [ .block "div" [attr "class" "gallery-grid"]
        [ .perItem "images"
            [ .block "div" [attr "class" "gallery-item", slot "data-index" "index"]
                [ .void "img"
                    [ slot "src" "src",
                      slot "alt" "alt",
                      attr "class" "gallery-image",
                      .valued "loading" [.present "first" ["eager"], .absent "first" ["lazy"]] ],
                  .inline "caption"
                    [.element "p" [attr "class" "gallery-caption"] [field "caption"]] ] ] ] ]

def style : List Style.Rule :=
  [ .compact [".gallery-container"] [⟨"padding", "20px 0"⟩],
    .compact [".gallery-grid"]
      [ ⟨"display", "grid"⟩,
        ⟨"grid-template-columns", "repeat(auto-fit, minmax(300px, 1fr))"⟩,
        ⟨"gap", "20px"⟩ ],
    .spread [".gallery-item"]
      [ ⟨"position", "relative"⟩,
        ⟨"overflow", "hidden"⟩,
        ⟨"border-radius", "8px"⟩,
        ⟨"box-shadow", "0 4px 8px rgba(0,0,0,0.1)"⟩,
        ⟨"cursor", "zoom-in"⟩ ],
    .compact [".gallery-image"]
      [ ⟨"width", "100%"⟩,
        ⟨"height", "250px"⟩,
        ⟨"object-fit", "cover"⟩,
        ⟨"transition", "transform 0.3s ease"⟩ ],
    .compact [".gallery-item:hover .gallery-image"] [⟨"transform", "scale(1.05)"⟩],
    .spread [".gallery-caption"]
      [ ⟨"position", "absolute"⟩,
        ⟨"bottom", "0"⟩,
        ⟨"left", "0"⟩,
        ⟨"right", "0"⟩,
        ⟨"background", "linear-gradient(transparent, rgba(0,0,0,0.7))"⟩,
        ⟨"color", "white"⟩,
        ⟨"padding", "20px"⟩,
        ⟨"margin", "0"⟩ ] ]

/-- The script of the component, which runs with its container as `el`. -/
def script : List Script.Code :=
  [
    .block "el.querySelectorAll('.gallery-item').forEach(function (item) " [
      .block "item.addEventListener('click', function () " [
        "var img = item.querySelector('.gallery-image');",
        "if (!img) return;",
        "var lightbox = document.createElement('div');",
        "lightbox.className = 'lightbox';",
        "var full = document.createElement('img');",
        "full.src = img.src;",
        "full.alt = img.alt;",
        "var close = document.createElement('button');",
        "close.className = 'lightbox-close';",
        "close.setAttribute('aria-label', 'Close');",
        "close.textContent = '\\u00d7';",
        "lightbox.appendChild(full);",
        "lightbox.appendChild(close);",
        "document.body.appendChild(lightbox);",
        .block "lightbox.addEventListener('click', function (e) " [
          .block "if (e.target === lightbox || e.target === close) " [
            "document.body.removeChild(lightbox);"
          ] ""
        ] ");"
      ] ");"
    ] ");" ]

def definition : Definition :=
  { type := "gallery"
    fields := fields
    markup := markup
    style := style
    script := script
    derive := positionsIn "images" }

end StaticSite.Component.Gallery
