import StaticSite.Component.Definition

/-!
Contract: the button component, a link in one of three looks.

Owns:
- the text, the target and the look of the link, and the window it opens in.

Does not own: the container around the markup (see `StaticSite.Emission.Container`).
-/

namespace StaticSite.Component.Button

open StaticSite.Markup StaticSite.Schema

def fields : List Field :=
  [ textField "text" "text" "Button",
    linkField "link" "link" "#",
    choiceField "style" "style" ["primary", "secondary", "outline"] "primary",
    choiceField "target" "target" ["_blank", "_self", "_parent", "_top"] "" ]

def markup : Template :=
  .element "a"
    [ slot "href" "link",
      .valued "class" ["button ", .value "style"],
      .present "target" [slot "target" "target", attr "rel" "noopener noreferrer"] ]
    [field "text"]

def style : List Style.Rule :=
  [ .spread [".button"]
      [ ⟨"display", "inline-block"⟩,
        ⟨"padding", "12px 24px"⟩,
        ⟨"border", "none"⟩,
        ⟨"border-radius", "5px"⟩,
        ⟨"text-decoration", "none"⟩,
        ⟨"font-weight", "bold"⟩,
        ⟨"cursor", "pointer"⟩,
        ⟨"transition", "all 0.3s ease"⟩,
        ⟨"text-align", "center"⟩ ],
    .compact [".button.primary"] [⟨"background-color", "#3498db"⟩, ⟨"color", "white"⟩],
    .compact [".button.secondary"] [⟨"background-color", "#95a5a6"⟩, ⟨"color", "white"⟩],
    .compact [".button.outline"]
      [ ⟨"background-color", "transparent"⟩,
        ⟨"color", "#3498db"⟩,
        ⟨"border", "2px solid #3498db"⟩ ],
    .compact [".button:hover"]
      [⟨"transform", "translateY(-2px)"⟩, ⟨"box-shadow", "0 4px 8px rgba(0,0,0,0.2)"⟩] ]

def definition : Definition :=
  { type := "button"
    fields := fields
    markup := markup
    style := style }

end StaticSite.Component.Button
