import StaticSite.Component.Navigation

/-!
Contract: the footer component, the closing section of a page.

Owns:
- the description of the owner, links, contact and copyright; without a year none is
  shown.

Does not own: the container around the markup (see `StaticSite.Emission.Container`).
-/

namespace StaticSite.Component.Footer

open StaticSite.Markup StaticSite.Schema

def fields : List Field :=
  [ textField "title" "title" "Company Name",
    textField "description" "description" "",
    recordsField "links" "links" NavigationLink.fields,
    textField "contact" "contact" "",
    textField "copyright" "copyright" "All rights reserved.",
    textField "year" "year" "" ]

def markup : Template :=
  .block "footer" [attr "class" "footer-container"]
    [ .block "div" [attr "class" "footer-content"]
        [ .block "div" [attr "class" "footer-section"]
            [.element "h3" [] [field "title"], .element "p" [] [field "description"]],
          .block "div" [attr "class" "footer-section"]
            [ .element "h4" [] ["Quick Links"],
              .block "ul" []
                [ .inline "links"
                    [.element "li" [] [.element "a" [slot "href" "url"] [field "text"]]] ] ],
          .block "div" [attr "class" "footer-section"]
            [.element "h4" [] ["Contact"], .element "p" [] [field "contact"]] ],
      .block "div" [attr "class" "footer-bottom"]
        [.element "p" [] ["&copy; ", .inline "year" [field "year", " "], field "copyright"]] ]

def style : List Style.Rule :=
  [ .compact [".footer-container"]
      [⟨"background-color", "#2c3e50"⟩, ⟨"color", "white"⟩, ⟨"padding", "3rem 0 1rem"⟩],
    .spread [".footer-content"]
      [ ⟨"max-width", "1200px"⟩,
        ⟨"margin", "0 auto"⟩,
        ⟨"padding", "0 2rem"⟩,
        ⟨"display", "grid"⟩,
        ⟨"grid-template-columns", "repeat(auto-fit, minmax(250px, 1fr))"⟩,
        ⟨"gap", "2rem"⟩ ],
    .compact [".footer-section h3", ".footer-section h4"] [⟨"margin-bottom", "1rem"⟩],
    .compact [".footer-section ul"] [⟨"list-style", "none"⟩, ⟨"padding", "0"⟩],
    .compact [".footer-section ul li"] [⟨"margin-bottom", "0.5rem"⟩],
    .compact [".footer-section a"] [⟨"color", "#bdc3c7"⟩, ⟨"text-decoration", "none"⟩],
    .compact [".footer-section a:hover"] [⟨"color", "white"⟩],
    .compact [".footer-bottom"]
      [ ⟨"text-align", "center"⟩,
        ⟨"padding-top", "2rem"⟩,
        ⟨"border-top", "1px solid #34495e"⟩,
        ⟨"margin-top", "2rem"⟩ ] ]

def definition : Definition :=
  { type := "footer"
    fields := fields
    markup := markup
    style := style }

end StaticSite.Component.Footer
