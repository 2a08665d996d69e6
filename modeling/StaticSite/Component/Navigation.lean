import StaticSite.Component.Definition

/-!
Contract: the navigation component, the menu of a site.

Owns:
- the target and the text of a link in a menu;
- the brand with its link, the menu, and the script that opens the menu on small
  screens.

Does not own: the container around the markup (see `StaticSite.Emission.Container`).
-/

namespace StaticSite.Component.NavigationLink

open StaticSite.Schema

def fields : List Field :=
  [linkField "url" "url" "#", textField "text" "text" "Link"]

end StaticSite.Component.NavigationLink

namespace StaticSite.Component.Navigation

open StaticSite.Markup StaticSite.Schema

def fields : List Field :=
  [ textField "brand_text" "brandText" "Brand",
    linkField "brand_link" "brandLink" "/",
    recordsField "links" "links" NavigationLink.fields ]

def markup : Template :=
  .block "nav" [attr "class" "navigation-container", attr "aria-label" "Main"]
    [ .element "div" [attr "class" "nav-brand"]
        [.element "a" [slot "href" "brand_link"] [field "brand_text"]],
      .block "div" [attr "class" "nav-menu"]
        [ .inline "links"
            [.element "a" [slot "href" "url", attr "class" "nav-link"] [field "text"]] ],
      .block "button"
        [ attr "class" "nav-toggle",
          attr "aria-label" "Toggle navigation",
          attr "aria-expanded" "false" ]
        [.row [.element "span" [] [], .element "span" [] [], .element "span" [] []]] ]

def style : List Style.Rule :=
  [ .spread [".navigation-container"]
      [ ⟨"display", "flex"⟩,
        ⟨"justify-content", "space-between"⟩,
        ⟨"align-items", "center"⟩,
        ⟨"padding", "1rem 2rem"⟩,
        ⟨"background-color", "#fff"⟩,
        ⟨"box-shadow", "0 2px 4px rgba(0,0,0,0.1)"⟩ ],
    .compact [".nav-brand a"]
      [ ⟨"font-size", "1.5rem"⟩,
        ⟨"font-weight", "bold"⟩,
        ⟨"text-decoration", "none"⟩,
        ⟨"color", "#333"⟩ ],
    .compact [".nav-menu"] [⟨"display", "flex"⟩, ⟨"gap", "2rem"⟩],
    .compact [".nav-link"]
      [ ⟨"text-decoration", "none"⟩,
        ⟨"color", "#333"⟩,
        ⟨"font-weight", "500"⟩,
        ⟨"transition", "color 0.3s ease"⟩ ],
    .compact [".nav-link:hover"] [⟨"color", "#3498db"⟩],
    .compact [".nav-toggle"]
      [ ⟨"display", "none"⟩,
        ⟨"flex-direction", "column"⟩,
        ⟨"background", "none"⟩,
        ⟨"border", "none"⟩,
        ⟨"cursor", "pointer"⟩ ],
    .compact [".nav-toggle span"]
      [⟨"width", "25px"⟩, ⟨"height", "3px"⟩, ⟨"background-color", "#333"⟩, ⟨"margin", "3px 0"⟩],
    .group "@media (max-width: 768px)"
      [ .compact [".nav-menu"] [⟨"display", "none"⟩],
        .compact [".nav-menu.open"] [⟨"display", "flex"⟩, ⟨"flex-direction", "column"⟩],
        .compact [".nav-toggle"] [⟨"display", "flex"⟩] ] ]

/-- The script of the component, which runs with its container as `el`. -/
def script : List Script.Code :=
  [
    "var toggle = el.querySelector('.nav-toggle');",
    "var menu = el.querySelector('.nav-menu');",
    .block "if (toggle && menu) " [
      .block "toggle.addEventListener('click', function () " [
        "var open = menu.classList.toggle('open');",
        "toggle.setAttribute('aria-expanded', open ? 'true' : 'false');"
      ] ");"
    ] "" ]

def definition : Definition :=
  { type := "navigation"
    fields := fields
    markup := markup
    style := style
    script := script }

end StaticSite.Component.Navigation
