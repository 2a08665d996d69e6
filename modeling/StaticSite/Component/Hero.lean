import StaticSite.Component.Definition

/-!
Contract: the hero component, the large heading of a page.

Owns:
- a title, a subtitle, a link shown as a button, and a background image.

Does not own: the container around the markup (see `StaticSite.Emission.Container`).
-/

namespace StaticSite.Component.Hero

open StaticSite.Markup StaticSite.Schema

def fields : List Field :=
  [ textField "title" "title" "Welcome",
    textField "subtitle" "subtitle" "",
    textField "button_text" "buttonText" "",
    linkField "button_link" "buttonLink" "#",
    linkField "background_image" "backgroundImage" "" ]

def markup : Template :=
  .block "div" [attr "class" "hero-section"]
    [ .block "div" [attr "class" "hero-content"]
        [ .element "h1" [attr "class" "hero-title"] [field "title"],
          .element "p" [attr "class" "hero-subtitle"] [field "subtitle"],
          .inline "button_text"
            [ .element "a" [slot "href" "button_link", attr "class" "hero-button"]
                [field "button_text"] ] ],
      .inline "background_image"
        [ .element "div"
            [ attr "class" "hero-background",
              .valued "style" ["background-image: url('", .value "background_image", "')"] ]
            [] ] ]

def style : List Style.Rule :=
  [ .spread [".hero-section"]
      [ ⟨"position", "relative"⟩,
        ⟨"min-height", "500px"⟩,
        ⟨"display", "flex"⟩,
        ⟨"align-items", "center"⟩,
        ⟨"justify-content", "center"⟩,
        ⟨"text-align", "center"⟩,
        ⟨"background", "linear-gradient(135deg, #667eea 0%, #764ba2 100%)"⟩,
        ⟨"color", "white"⟩ ],
    .spread [".hero-background"]
      [ ⟨"position", "absolute"⟩,
        ⟨"inset", "0"⟩,
        ⟨"background-size", "cover"⟩,
        ⟨"background-position", "center"⟩,
        ⟨"opacity", "0.3"⟩ ],
    .compact [".hero-content"]
      [ ⟨"position", "relative"⟩,
        ⟨"z-index", "1"⟩,
        ⟨"max-width", "800px"⟩,
        ⟨"padding", "0 20px"⟩ ],
    .compact [".hero-title"]
      [⟨"font-size", "3rem"⟩, ⟨"font-weight", "bold"⟩, ⟨"margin-bottom", "1rem"⟩],
    .compact [".hero-subtitle"]
      [⟨"font-size", "1.2rem"⟩, ⟨"margin-bottom", "2rem"⟩, ⟨"opacity", "0.9"⟩],
    .spread [".hero-button"]
      [ ⟨"display", "inline-block"⟩,
        ⟨"padding", "12px 30px"⟩,
        ⟨"background-color", "#fff"⟩,
        ⟨"color", "#333"⟩,
        ⟨"text-decoration", "none"⟩,
        ⟨"border-radius", "5px"⟩,
        ⟨"font-weight", "bold"⟩,
        ⟨"transition", "transform 0.3s ease"⟩ ],
    .compact [".hero-button:hover"] [⟨"transform", "translateY(-2px)"⟩],
    .group "@media (max-width: 768px)"
      [ .compact [".hero-title"] [⟨"font-size", "2rem"⟩],
        .compact [".hero-subtitle"] [⟨"font-size", "1rem"⟩] ] ]

def definition : Definition :=
  { type := "hero"
    fields := fields
    markup := markup
    style := style }

end StaticSite.Component.Hero
